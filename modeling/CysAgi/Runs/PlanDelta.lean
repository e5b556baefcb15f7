import CysAgi.Base.Text
import CysAgi.Runs.RunState

namespace CysAgi

open Py

structure TodosById where
  byId : Dict String WorkTodo
  keyed : ∀ id todo, byId.get? id = some todo → todo.id = id

namespace TodosById

def empty : TodosById := ⟨.empty, by intro id todo found; cases found⟩

def get (t : TodosById) (id : String) : Option WorkTodo := t.byId.get? id

def set (t : TodosById) (todo : WorkTodo) : TodosById where
  byId := t.byId.set todo.id todo
  keyed id other found := by
    rw [Dict.get?_set] at found
    split at found
    · rename_i same
      cases found
      exact same.symm
    · exact t.keyed id other found

/-- `{t.id: t.model_copy() for t in todos}`. -/
def ofTodos (todos : List WorkTodo) : TodosById := todos.foldl set empty

def todos (t : TodosById) : List WorkTodo := t.byId.entries.map Prod.snd

def ids (t : TodosById) : List String := t.todos.map (·.id)

variable {t u : TodosById} {todo : WorkTodo}

theorem get_set (todo : WorkTodo) (id : String) :
    (t.set todo).get id = if id = todo.id then some todo else t.get id := Dict.get?_set _ _ _ _

theorem entries_eq (t : TodosById) : t.byId.entries = t.todos.map fun todo => (todo.id, todo) := by
  unfold todos
  rw [List.map_map]
  refine (List.map_id _).symm.trans (List.map_congr_left fun entry member => ?_)
  obtain ⟨id, todo⟩ := entry
  have named := t.keyed id todo ((Dict.mem_entries_iff _).mp member)
  rw [Function.comp_apply, named]
  rfl

theorem ids_eq (t : TodosById) : t.ids = t.byId.entries.map Prod.fst := by
  rw [ids, entries_eq, List.map_map]
  rfl

theorem ids_nodup (t : TodosById) : t.ids.Nodup := by
  rw [ids_eq]
  exact t.byId.nodup

theorem mem_ids_iff (id : String) : id ∈ t.ids ↔ ∃ todo, t.get id = some todo := by
  rw [ids_eq, List.mem_map]
  constructor
  · intro found
    obtain ⟨⟨key, todo⟩, member, rfl⟩ := found
    exact ⟨todo, (Dict.mem_entries_iff _).mp member⟩
  · intro found
    obtain ⟨todo, held⟩ := found
    exact ⟨(id, todo), (Dict.mem_entries_iff _).mpr held, rfl⟩

theorem mem_todos_iff : todo ∈ t.todos ↔ t.get todo.id = some todo := by
  rw [get, ← Dict.mem_entries_iff, entries_eq, List.mem_map]
  constructor
  · exact fun member => ⟨todo, member, rfl⟩
  · intro found
    obtain ⟨other, member, same⟩ := found
    rw [← (Prod.mk.inj same).2]
    exact member

theorem get_congr (same : t.todos = u.todos) (id : String) : t.get id = u.get id := by
  unfold get Dict.get?
  rw [entries_eq, entries_eq, same]

theorem todos_set_new (new : t.get todo.id = none) : (t.set todo).todos = t.todos ++ [todo] := by
  have absent : todo.id ∉ t.byId.entries.map Prod.fst := by
    rw [← ids_eq, mem_ids_iff]
    intro found
    obtain ⟨held, found⟩ := found
    rw [new] at found
    cases found
  unfold todos set Dict.set
  dsimp only
  rw [Assoc.set_absent absent, List.map_append]
  rfl

theorem ids_set_held {held : WorkTodo} (found : t.get todo.id = some held) : (t.set todo).ids = t.ids := by
  have present : todo.id ∈ t.byId.entries.map Prod.fst := by
    rw [← ids_eq, mem_ids_iff]
    exact ⟨held, found⟩
  rw [ids_eq, ids_eq]
  unfold set Dict.set
  rw [Assoc.set_keys, if_pos present]

theorem todos_set_same (found : t.get todo.id = some todo) : (t.set todo).todos = t.todos := by
  unfold todos set Dict.set
  dsimp only
  rw [Assoc.set_stored found]

theorem todos_foldl_set {todos : List WorkTodo} (unique : (t.ids ++ todos.map (·.id)).Nodup) :
    (todos.foldl set t).todos = t.todos ++ todos := by
  induction todos generalizing t with
  | nil => exact (List.append_nil _).symm
  | cons todo todos ih =>
    have new : t.get todo.id = none := by
      by_contra held
      obtain ⟨other, found⟩ := Option.ne_none_iff_exists'.mp held
      have apart := (List.nodup_append.mp unique).2.2 todo.id ((mem_ids_iff _).mpr ⟨other, found⟩) todo.id
      exact apart List.mem_cons_self rfl
    have grown := todos_set_new new
    rw [List.foldl_cons, ih, grown, List.append_assoc, List.singleton_append]
    rw [ids, grown, List.map_append, List.append_assoc]
    exact unique

theorem todos_ofTodos {todos : List WorkTodo} (unique : (todos.map (·.id)).Nodup) : (ofTodos todos).todos = todos :=
  todos_foldl_set unique

end TodosById

structure DeltaReader where
  str : Json → String
  lower : String → String

namespace DeltaReader

variable (reader : DeltaReader)

/-- `str(item.get(first) or item.get(second) or ..)`, where one of them is given. -/
def given (item : JsonDict) (names : List String) : Option String :=
  (names.find? fun name => (JsonDict.getD item name .null).truthy).map fun name =>
    reader.str (JsonDict.getD item name .null)

def normalizeStatus (raw : String) : TodoStatus :=
  ([.pending, .inProgress, .done, .failed, .cancelled].find? fun status : TodoStatus =>
    status.value = strip (reader.lower raw)).getD .pending

def namedId (item : JsonDict) : Option String := reader.given item ["id", "step"]

def content (item : JsonDict) : String := (reader.given item ["content", "title", "description"]).getD ""

def status (item : JsonDict) : Option TodoStatus := (reader.given item ["status"]).map reader.normalizeStatus

def assigned (item : JsonDict) : String := (reader.given item ["assigned_persona", "persona"]).getD ""

def updated (item : JsonDict) (existing : WorkTodo) : WorkTodo :=
  { existing with
    content := orElse (reader.content item) existing.content
    status := (reader.status item).getD .pending
    assignedPersona := orElse (reader.assigned item) existing.assignedPersona }

def created (item : JsonDict) (todoId : String) : WorkTodo where
  id := todoId
  content := reader.content item
  status := (reader.status item).getD .pending
  assignedPersona := reader.assigned item

def applyItem (byId : TodosById) (entry : Json × Nat) : TodosById :=
  match entry.1 with
  | .obj item =>
    let todoId := (reader.namedId item).getD (toString (entry.2 + 1))
    match byId.get todoId with
    | some existing => byId.set (reader.updated item existing)
    | none => if reader.content item = "" then byId else byId.set (reader.created item todoId)
  | _ => byId

/-- `plan_delta.get("todos") or plan_delta.get("steps") or []`, if that is a list. -/
def updates (planDelta : JsonDict) : List Json :=
  let todos := JsonDict.getD planDelta "todos" .null
  match if todos.truthy then todos else JsonDict.getD planDelta "steps" .null with
  | .arr items => items
  | _ => []

def merged (todos : List WorkTodo) (entries : List (Json × Nat)) : TodosById :=
  entries.foldl reader.applyItem (.ofTodos todos)

def applyPlanDelta (todos : List WorkTodo) (planDelta : JsonDict) : List WorkTodo :=
  if updates planDelta = [] then todos else (reader.merged todos (updates planDelta).zipIdx).todos

/-- The `depends_on` that an item gives, which `apply_plan_delta` does not read. -/
def givenNeeds (item : JsonDict) : Option (List String) :=
  match JsonDict.get? item "depends_on" with
  | some (.arr needs) => needs.mapM fun
    | .str id => some id
    | _ => none
  | _ => none

structure Changes (item : JsonDict) (todo changed : WorkTodo) : Prop where
  id : changed.id = todo.id
  content : reader.content item = "" → changed.content = todo.content
  status : reader.status item = none → changed.status = todo.status
  assigned : reader.assigned item = "" → changed.assignedPersona = todo.assignedPersona
  needs : givenNeeds item = none → changed.dependsOn = todo.dependsOn

structure Carries (item : JsonDict) (new : WorkTodo) : Prop where
  id : ∀ id, reader.namedId item = some id → new.id = id
  content : new.content = reader.content item
  status : ∀ status, reader.status item = some status → new.status = status
  assigned : new.assignedPersona = reader.assigned item
  needs : ∀ needs, givenNeeds item = some needs → new.dependsOn = needs

/-- What merging an item ought to do: it changes the todo that it names, or else is appended if it has content. -/
def Merges (item : JsonDict) (before after : TodosById) : Prop :=
  match (reader.namedId item).bind before.get with
  | some todo =>
    after.ids = before.ids ∧ (∀ other, other ≠ todo.id → after.get other = before.get other) ∧
      ∃ changed, after.get todo.id = some changed ∧ reader.Changes item todo changed
  | none =>
    if reader.content item = "" then after.todos = before.todos
    else ∃ new, after.todos = before.todos ++ [new] ∧ reader.Carries item new

/-- An item that names a todo carries a status, or the todo is pending. One without an id does not meet a todo that has
    its place for an id, unless it has no content and changes nothing there. One that is appended gives no
    `depends_on`. -/
def Unharmed (item : JsonDict) (index : Nat) (before : TodosById) : Prop :=
  match reader.namedId item with
  | some id =>
    match before.get id with
    | some todo => reader.status item ≠ none ∨ todo.status = .pending
    | none => reader.content item = "" ∨ ∀ needs, givenNeeds item = some needs → needs = []
  | none =>
    match before.get (toString (index + 1)) with
    | some todo =>
      reader.content item = "" ∧ (reader.status item).getD .pending = todo.status ∧
        (reader.assigned item = "" ∨ reader.assigned item = todo.assignedPersona)
    | none => reader.content item = "" ∨ ∀ needs, givenNeeds item = some needs → needs = []

variable {reader} {item : JsonDict} {index : Nat} {before : TodosById}

theorem changes_iff (todo : WorkTodo) :
    reader.Changes item todo (reader.updated item todo) ↔ reader.status item ≠ none ∨ todo.status = .pending := by
  constructor
  · intro changes
    by_cases absent : reader.status item = none
    · have same := changes.status absent
      rw [updated, absent] at same
      exact .inr same.symm
    · exact .inl absent
  · intro carried
    constructor
    · rfl
    · intro silent
      rw [updated, silent]
      rfl
    · intro absent
      rw [updated, absent]
      exact (carried.resolve_left (not_not_intro absent)).symm
    · intro silent
      rw [updated, silent]
      rfl
    · exact fun _ => rfl

theorem carries_iff {id : String} (named : ∀ other, reader.namedId item = some other → id = other) :
    reader.Carries item (reader.created item id) ↔ ∀ needs, givenNeeds item = some needs → needs = [] := by
  constructor
  · intro carries needs given
    exact (carries.needs needs given).symm
  · intro none
    constructor
    · exact named
    · rfl
    · intro status given
      rw [created, given]
      rfl
    · rfl
    · intro needs given
      exact (none needs given).symm

theorem updated_eq_iff {todo : WorkTodo} (silent : reader.content item = "") :
    reader.updated item todo = todo ↔ (reader.status item).getD .pending = todo.status ∧
      (reader.assigned item = "" ∨ reader.assigned item = todo.assignedPersona) := by
  obtain ⟨id, content, status, assignedPersona, dependsOn⟩ := todo
  unfold updated orElse
  rw [silent, if_pos rfl]
  by_cases unassigned : reader.assigned item = ""
  · simp [unassigned]
  · simp [unassigned]

theorem created_iff {id : String} (absent : before.get id = none)
    (named : ∀ other, reader.namedId item = some other → id = other) :
    (if reader.content item = "" then
        (if reader.content item = "" then before else before.set (reader.created item id)).todos = before.todos
      else ∃ new,
        (if reader.content item = "" then before else before.set (reader.created item id)).todos =
          before.todos ++ [new] ∧ reader.Carries item new) ↔
      reader.content item = "" ∨ ∀ needs, givenNeeds item = some needs → needs = [] := by
  by_cases silent : reader.content item = ""
  · rw [if_pos silent, if_pos silent]
    exact iff_of_true rfl (.inl silent)
  · simp only [if_neg silent]
    rw [TodosById.todos_set_new absent, or_iff_right silent, ← carries_iff named]
    constructor
    · intro found
      obtain ⟨new, same, carries⟩ := found
      rw [List.singleton_inj.mp (List.append_cancel_left same)]
      exact carries
    · intro carries
      exact ⟨_, rfl, carries⟩

theorem met_iff {todo : WorkTodo} (found : before.get todo.id = some todo) :
    (if reader.content item = "" then (before.set (reader.updated item todo)).todos = before.todos
      else ∃ new, (before.set (reader.updated item todo)).todos = before.todos ++ [new] ∧ reader.Carries item new) ↔
      reader.content item = "" ∧ (reader.status item).getD .pending = todo.status ∧
        (reader.assigned item = "" ∨ reader.assigned item = todo.assignedPersona) := by
  by_cases silent : reader.content item = ""
  · rw [if_pos silent, and_iff_right silent, ← updated_eq_iff silent]
    constructor
    · intro same
      have after := TodosById.get_congr same todo.id
      rw [found, TodosById.get_set] at after
      exact Option.some.inj ((if_pos rfl).symm.trans after)
    · intro same
      rw [same]
      exact TodosById.todos_set_same found
  · rw [if_neg silent]
    refine iff_of_false ?_ fun calm => silent calm.1
    intro grown
    obtain ⟨new, same, -⟩ := grown
    have kept : (before.set (reader.updated item todo)).ids = before.ids := TodosById.ids_set_held found
    have longer := congrArg List.length kept
    rw [TodosById.ids, same, TodosById.ids, List.length_map, List.length_map, List.length_append] at longer
    simp at longer

theorem merges_iff (item : JsonDict) (index : Nat) (before : TodosById) :
    reader.Merges item before (reader.applyItem before (.obj item, index)) ↔ reader.Unharmed item index before := by
  unfold Merges Unharmed applyItem
  dsimp only
  cases named : reader.namedId item with
  | some id =>
    rw [Option.bind_some, Option.getD_some]
    dsimp only
    cases found : before.get id with
    | some todo =>
      have same : todo.id = id := before.keyed id todo found
      rw [← same] at found
      dsimp only
      rw [← changes_iff todo]
      constructor
      · intro merged
        obtain ⟨-, -, changed, held, changes⟩ := merged
        rw [TodosById.get_set, updated, if_pos rfl] at held
        cases held
        exact changes
      · intro changes
        refine ⟨TodosById.ids_set_held found, ?_, _, ?_, changes⟩
        · intro other apart
          rw [TodosById.get_set]
          exact if_neg apart
        · rw [TodosById.get_set]
          exact if_pos rfl
    | none =>
      dsimp only
      exact created_iff found fun other same => Option.some.inj (named.symm.trans same)
  | none =>
    rw [Option.bind_none, Option.getD_none]
    dsimp only
    cases found : before.get (toString (index + 1)) with
    | some todo =>
      have same : todo.id = toString (index + 1) := before.keyed _ todo found
      rw [← same] at found
      dsimp only
      exact met_iff found
    | none =>
      dsimp only
      refine created_iff found fun other same => ?_
      rw [named] at same
      cases same

theorem merged_snoc (todos : List WorkTodo) (earlier : List (Json × Nat)) (entry : Json × Nat) :
    reader.merged todos (earlier ++ [entry]) = reader.applyItem (reader.merged todos earlier) entry := by
  unfold merged
  rw [List.foldl_append]
  rfl

theorem ids_applyItem (entry : Json × Nat) : before.ids <+: (reader.applyItem before entry).ids := by
  obtain ⟨json, index⟩ := entry
  unfold applyItem
  cases json with
  | obj item =>
    dsimp only
    cases found : before.get ((reader.namedId item).getD (toString (index + 1))) with
    | some todo =>
      have same : todo.id = _ := before.keyed _ todo found
      rw [← same] at found
      have kept : (before.set (reader.updated item todo)).ids = before.ids := TodosById.ids_set_held found
      dsimp only
      rw [kept]
    | none =>
      dsimp only
      split
      · exact List.prefix_rfl
      · have new : before.get (reader.created item ((reader.namedId item).getD (toString (index + 1)))).id = none :=
          found
        rw [TodosById.ids, TodosById.ids, TodosById.todos_set_new new, List.map_append]
        exact List.prefix_append _ _
  | _ => exact List.prefix_rfl

theorem ids_merged (todos : List WorkTodo) (entries : List (Json × Nat)) :
    (TodosById.ofTodos todos).ids <+: (reader.merged todos entries).ids := by
  induction entries using List.reverseRecOn with
  | nil => exact List.prefix_rfl
  | append_singleton earlier entry ih =>
    rw [merged_snoc]
    exact ih.trans (ids_applyItem entry)

theorem applyPlanDelta_eq {todos : List WorkTodo} (unique : (todos.map (·.id)).Nodup) (planDelta : JsonDict) :
    reader.applyPlanDelta todos planDelta = (reader.merged todos (updates planDelta).zipIdx).todos := by
  unfold applyPlanDelta
  by_cases none : updates planDelta = []
  · rw [if_pos none, none]
    exact (TodosById.todos_ofTodos unique).symm
  · rw [if_neg none]

variable (reader) in
/-- The result of a delta has the ids that were there, in their order, and none twice; it is what is left when every
    item was merged as it ought to be. -/
structure Framed (todos : List WorkTodo) (planDelta : JsonDict) : Prop where
  ids : todos.map (·.id) <+: (reader.applyPlanDelta todos planDelta).map (·.id)
  unique : ((reader.applyPlanDelta todos planDelta).map (·.id)).Nodup
  merges : ∀ earlier item index later, (updates planDelta).zipIdx = earlier ++ (.obj item, index) :: later →
    reader.Merges item (reader.merged todos earlier) (reader.merged todos (earlier ++ [(.obj item, index)]))
  last : reader.applyPlanDelta todos planDelta = (reader.merged todos (updates planDelta).zipIdx).todos

theorem Framed.unharmed {todos : List WorkTodo} {planDelta : JsonDict} {earlier later : List (Json × Nat)}
    (framed : reader.Framed todos planDelta)
    (split : (updates planDelta).zipIdx = earlier ++ (.obj item, index) :: later) :
    reader.Unharmed item index (reader.merged todos earlier) := by
  have merges := framed.merges earlier item index later split
  rw [merged_snoc] at merges
  exact (merges_iff item index _).mp merges

/-- A delta is merged as it ought to be exactly when none of its items is one that the code harms. -/
theorem framed_iff (reader : DeltaReader) (todos : List WorkTodo) (planDelta : JsonDict)
    (unique : (todos.map (·.id)).Nodup) :
    reader.Framed todos planDelta ↔
      ∀ earlier item index later, (updates planDelta).zipIdx = earlier ++ (.obj item, index) :: later →
        reader.Unharmed item index (reader.merged todos earlier) := by
  constructor
  · intro framed earlier item index later split
    exact framed.unharmed split
  · intro unharmed
    have result : reader.applyPlanDelta todos planDelta = (reader.merged todos (updates planDelta).zipIdx).todos :=
      applyPlanDelta_eq unique planDelta
    constructor
    · have kept : (TodosById.ofTodos todos).ids <+: (reader.merged todos (updates planDelta).zipIdx).ids :=
        ids_merged todos _
      unfold TodosById.ids at kept
      rw [TodosById.todos_ofTodos unique] at kept
      rw [result]
      exact kept
    · rw [result]
      exact TodosById.ids_nodup _
    · intro earlier item index later split
      rw [merged_snoc]
      exact (merges_iff item index _).mpr (unharmed earlier item index later split)
    · exact result

structure Keeps (reader : DeltaReader) (entries : List (Json × Nat)) (todo kept : WorkTodo) : Prop where
  id : kept.id = todo.id
  content : (∀ item index, (.obj item, index) ∈ entries → reader.namedId item = some todo.id →
    reader.content item = "") → kept.content = todo.content
  status : (∀ item index, (.obj item, index) ∈ entries → reader.namedId item = some todo.id →
    reader.status item = none) → kept.status = todo.status
  assigned : (∀ item index, (.obj item, index) ∈ entries → reader.namedId item = some todo.id →
    reader.assigned item = "") → kept.assignedPersona = todo.assignedPersona
  needs : (∀ item index, (.obj item, index) ∈ entries → reader.namedId item = some todo.id →
    givenNeeds item = none) → kept.dependsOn = todo.dependsOn

theorem Keeps.more {entries : List (Json × Nat)} {todo kept : WorkTodo} (keeps : Keeps reader entries todo kept)
    (entry : Json × Nat) : Keeps reader (entries ++ [entry]) todo kept where
  id := keeps.id
  content silent := keeps.content fun item index member => silent item index (List.mem_append_left _ member)
  status silent := keeps.status fun item index member => silent item index (List.mem_append_left _ member)
  assigned silent := keeps.assigned fun item index member => silent item index (List.mem_append_left _ member)
  needs silent := keeps.needs fun item index member => silent item index (List.mem_append_left _ member)

theorem Keeps.changed {entries : List (Json × Nat)} {todo kept changed : WorkTodo}
    (keeps : Keeps reader entries todo kept) (named : reader.namedId item = some todo.id)
    (changes : reader.Changes item kept changed) : Keeps reader (entries ++ [(.obj item, index)]) todo changed where
  id := changes.id.trans keeps.id
  content silent := (changes.content (silent item index (List.mem_append_right _ List.mem_cons_self) named)).trans
    ((keeps.more _).content silent)
  status silent := (changes.status (silent item index (List.mem_append_right _ List.mem_cons_self) named)).trans
    ((keeps.more _).status silent)
  assigned silent := (changes.assigned (silent item index (List.mem_append_right _ List.mem_cons_self) named)).trans
    ((keeps.more _).assigned silent)
  needs silent := (changes.needs (silent item index (List.mem_append_right _ List.mem_cons_self) named)).trans
    ((keeps.more _).needs silent)

theorem Merges.kept {after : TodosById} {entries : List (Json × Nat)} {todo kept : WorkTodo}
    (merges : reader.Merges item before after) (held : before.get todo.id = some kept)
    (keeps : Keeps reader entries todo kept) :
    ∃ later, after.get todo.id = some later ∧ Keeps reader (entries ++ [(.obj item, index)]) todo later := by
  have named := before.keyed _ _ held
  unfold Merges at merges
  cases target : (reader.namedId item).bind before.get with
  | some other =>
    rw [target] at merges
    obtain ⟨-, others, changed, got, changes⟩ := merges
    obtain ⟨id, given, found⟩ := Option.bind_eq_some_iff.mp target
    have own : other.id = id := before.keyed _ _ found
    by_cases same : todo.id = other.id
    · rw [same, own, found] at held
      cases held
      rw [same]
      exact ⟨changed, got, keeps.changed (given.trans (congrArg some (own.symm.trans same.symm))) changes⟩
    · exact ⟨kept, (others todo.id same).trans held, keeps.more _⟩
  | none =>
    rw [target] at merges
    refine ⟨kept, ?_, keeps.more _⟩
    rw [← named] at held ⊢
    apply TodosById.mem_todos_iff.mp
    have there := TodosById.mem_todos_iff.mpr held
    dsimp only at merges
    split at merges
    · rw [merges]
      exact there
    · obtain ⟨new, grown, -⟩ := merges
      rw [grown]
      exact List.mem_append_left _ there

theorem kept_merged {todos : List WorkTodo} {planDelta : JsonDict} (framed : reader.Framed todos planDelta)
    {todo : WorkTodo} (held : (TodosById.ofTodos todos).get todo.id = some todo) (earlier later : List (Json × Nat))
    (split : (updates planDelta).zipIdx = earlier ++ later) :
    ∃ kept, (reader.merged todos earlier).get todo.id = some kept ∧ Keeps reader earlier todo kept := by
  induction earlier using List.reverseRecOn generalizing later with
  | nil => exact ⟨todo, held, rfl, fun _ => rfl, fun _ => rfl, fun _ => rfl, fun _ => rfl⟩
  | append_singleton earlier entry ih =>
    have parts : (updates planDelta).zipIdx = earlier ++ entry :: later := by
      rw [split, List.append_assoc, List.singleton_append]
    obtain ⟨kept, found, keeps⟩ := ih (entry :: later) parts
    obtain ⟨json, index⟩ := entry
    cases json with
    | obj item => exact (framed.merges earlier item index later parts).kept found keeps
    | _ =>
      rw [merged_snoc]
      exact ⟨kept, found, keeps.more _⟩

theorem todo_kept {todos : List WorkTodo} {planDelta : JsonDict} (unique : (todos.map (·.id)).Nodup)
    (framed : reader.Framed todos planDelta) {todo : WorkTodo} (member : todo ∈ todos) :
    ∃ kept ∈ reader.applyPlanDelta todos planDelta, Keeps reader (updates planDelta).zipIdx todo kept := by
  rw [← TodosById.todos_ofTodos unique] at member
  obtain ⟨kept, found, keeps⟩ := kept_merged framed (TodosById.mem_todos_iff.mp member) (updates planDelta).zipIdx []
    (List.append_nil _).symm
  refine ⟨kept, ?_, keeps⟩
  rw [framed.last]
  rw [← keeps.id] at found
  exact TodosById.mem_todos_iff.mpr found

def plainReader : DeltaReader where
  str
    | .str text => text
    | _ => ""
  lower text := text

def gatherLogs : WorkTodo := { id := "1", content := "gather logs", status := .done }

def deltaOf (item : JsonDict) : JsonDict := [("todos", .arr [.obj item])]

theorem Framed.unharmed_only {todos : List WorkTodo} (framed : reader.Framed todos (deltaOf item)) :
    reader.Unharmed item 0 (.ofTodos todos) :=
  @Framed.unharmed reader item 0 todos (deltaOf item) [] [] framed rfl

/-- Assigning a todo that is done makes it pending, a step without an id is written over the first todo, and a new step
    loses what it depends on. -/
theorem deltas_harm :
    ¬plainReader.Framed [gatherLogs] (deltaOf [("id", .str "1"), ("assigned_persona", .str "soc")]) ∧
      ¬plainReader.Framed [gatherLogs] (deltaOf [("content", .str "block the host")]) ∧
      ¬plainReader.Framed [gatherLogs]
        (deltaOf [("id", .str "2"), ("content", .str "block the host"), ("depends_on", .arr [.str "1"])]) := by
  refine ⟨fun framed => ?_, fun framed => ?_, fun framed => ?_⟩
  · rcases framed.unharmed_only with carried | pending
    · exact carried rfl
    · cases pending
  · exact absurd framed.unharmed_only.1 (by decide +kernel)
  · rcases framed.unharmed_only with silent | none
    · exact absurd silent (by decide +kernel)
    · exact absurd (none ["1"] rfl) (by decide +kernel)

theorem new_step_framed :
    plainReader.Framed [gatherLogs] (deltaOf [("id", .str "2"), ("content", .str "block the host")]) := by
  apply (framed_iff plainReader [gatherLogs] _ (by decide)).mpr
  intro earlier item index later split
  cases earlier with
  | nil =>
    cases split
    right
    intro needs given
    cases given
  | cons entry earlier =>
    cases earlier <;> cases split

end DeltaReader

end CysAgi
