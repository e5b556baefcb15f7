import Mathlib.Data.List.Flatten
import Mathlib.Logic.Function.Basic
import CysAgi.Base.Transition

namespace Broadcast

variable {Event Client : Type} [DecidableEq Client]

/-- A hub that calls, for each event, those who were subscribed when it was published, one after the other.
    `calling` are the publications, each with the subscribers that are still to be called. -/
structure Hub (Event Client : Type) where
  subscribers : List Client := []
  calling : List (Event × List Client) := []
  handed : Client → List Event := fun _ => []

inductive Action (Event Client : Type) where
  | subscribe (client : Client)
  | unsubscribe (client : Client)
  | publish (event : Event)
  | call (publication : Nat)

namespace Hub

def call (hub : Hub Event Client) (publication : Nat) : Option (Hub Event Client) :=
  match hub.calling[publication]? with
  | some (event, client :: rest) => some
    { hub with
      calling := hub.calling.set publication (event, rest)
      handed := Function.update hub.handed client (hub.handed client ++ [event]) }
  | _ => none

def step (hub : Hub Event Client) : Action Event Client → Option (Hub Event Client)
  | .subscribe client => some { hub with subscribers := hub.subscribers ++ [client] }
  | .unsubscribe client => some { hub with subscribers := hub.subscribers.erase client }
  | .publish event => some { hub with calling := hub.calling ++ [(event, hub.subscribers)] }
  | .call publication => hub.call publication

def due (client : Client) (publication : Event × List Client) : List Event :=
  List.replicate (publication.2.count client) publication.1

def waiting (hub : Hub Event Client) (client : Client) : List Event := hub.calling.flatMap (due client)

def promised (client : Client) (hub : Hub Event Client) : Action Event Client → List Event
  | .publish event => List.replicate (hub.subscribers.count client) event
  | _ => []

@[simp] theorem promised_call (hub : Hub Event Client) (client : Client) (publication : Nat) :
    promised client hub (.call publication) = [] := rfl

theorem call_eq {hub next : Hub Event Client} {publication : Nat} (called : hub.call publication = some next) :
    ∃ event client rest before after, hub.calling = before ++ (event, client :: rest) :: after ∧
      before.length = publication ∧
        next =
          { hub with
            calling := before ++ (event, rest) :: after
            handed := Function.update hub.handed client (hub.handed client ++ [event]) } := by
  unfold call at called
  split at called
  · next event client rest here =>
    cases called
    obtain ⟨inside, same⟩ := List.getElem?_eq_some_iff.mp here
    obtain ⟨before, after, whole, size, set⟩ : ∃ before after,
        hub.calling = before ++ hub.calling[publication] :: after ∧ before.length = publication ∧
          hub.calling.set publication (event, rest) = before ++ (event, rest) :: after :=
      List.exists_of_set inside
    rw [same] at whole
    exact ⟨event, client, rest, before, after, whole, size, by rw [set]⟩
  · cases called

theorem due_cons_self (event : Event) (client : Client) (rest : List Client) :
    due client (event, client :: rest) = event :: due client (event, rest) := by
  simp [due, List.replicate_succ]

theorem due_cons_of_ne (event : Event) {client other : Client} (ne : client ≠ other) (rest : List Client) :
    due other (event, client :: rest) = due other (event, rest) := by
  simp [due, List.count_cons_of_ne ne]

theorem waiting_publish (hub : Hub Event Client) (event : Event) (client : Client) :
    waiting { hub with calling := hub.calling ++ [(event, hub.subscribers)] } client =
      hub.waiting client ++ promised client hub (.publish event) := by
  simp [waiting, promised, due]

theorem perm_step {hub next : Hub Event Client} {action : Action Event Client} (taken : hub.step action = some next)
    (client : Client) :
    (next.handed client ++ next.waiting client).Perm
      (hub.handed client ++ hub.waiting client ++ promised client hub action) := by
  cases action with
  | subscribe other =>
    cases taken
    exact .of_eq (List.append_nil _).symm
  | unsubscribe other =>
    cases taken
    exact .of_eq (List.append_nil _).symm
  | publish event =>
    cases taken
    rw [waiting_publish, List.append_assoc]
  | call publication =>
    obtain ⟨event, other, rest, before, after, whole, -, rfl⟩ := call_eq taken
    rw [promised_call, List.append_nil, waiting, waiting, whole, List.flatMap_append, List.flatMap_append,
      List.flatMap_cons, List.flatMap_cons]
    dsimp only
    by_cases same : other = client
    · rw [same, Function.update_self, due_cons_self, List.append_assoc, List.singleton_append, List.cons_append]
      apply List.Perm.append_left
      exact List.perm_middle.symm
    · rw [Function.update_of_ne (Ne.symm same), due_cons_of_ne event same]

def owed (client : Client) : List Client → List (Action Event Client) → List Event
  | _, [] => []
  | subscribers, .subscribe other :: rest => owed client (subscribers ++ [other]) rest
  | subscribers, .unsubscribe other :: rest => owed client (subscribers.erase other) rest
  | subscribers, .publish event :: rest =>
    List.replicate (subscribers.count client) event ++ owed client subscribers rest
  | subscribers, .call _ :: rest => owed client subscribers rest

theorem owed_cons {hub next : Hub Event Client} {action : Action Event Client} (taken : hub.step action = some next)
    (client : Client) (rest : List (Action Event Client)) :
    owed client hub.subscribers (action :: rest) = promised client hub action ++ owed client next.subscribers rest := by
  cases action with
  | subscribe other =>
    cases taken
    rfl
  | unsubscribe other =>
    cases taken
    rfl
  | publish event =>
    cases taken
    rfl
  | call publication =>
    obtain ⟨event, other, rest', before, after, -, -, rfl⟩ := call_eq taken
    rfl

theorem perm_run {actions : List (Action Event Client)} {hub last : Hub Event Client}
    (reached : Transition.run step hub actions = some last) (client : Client) :
    (last.handed client ++ last.waiting client).Perm
      (hub.handed client ++ hub.waiting client ++ owed client hub.subscribers actions) := by
  induction actions generalizing hub with
  | nil =>
    cases reached
    exact .of_eq (List.append_nil _).symm
  | cons action rest ih =>
    obtain ⟨next, taken, reached⟩ := Option.bind_eq_some_iff.mp reached
    rw [owed_cons taken, ← List.append_assoc]
    exact (ih reached).trans (List.Perm.append_right _ (perm_step taken client))

/-- A publication begins when all subscribers of those before it have been called. -/
def Alone (hub : Hub Event Client) : Action Event Client → Prop
  | .publish _ => ∀ publication ∈ hub.calling, publication.2 = []
  | _ => True

def OneAtATime (hub : Hub Event Client) : Prop := ∀ publication ∈ hub.calling.dropLast, publication.2 = []

theorem due_of_done {publication : Event × List Client} (done : publication.2 = []) (client : Client) :
    due client publication = [] := by
  rw [due, done]
  rfl

theorem flatMap_due_of_done {publications : List (Event × List Client)}
    (done : ∀ publication ∈ publications, publication.2 = []) (client : Client) :
    publications.flatMap (due client) = [] := by
  rw [List.flatMap_eq_nil_iff]
  exact fun publication member => due_of_done (done publication member) client

theorem OneAtATime.step {hub next : Hub Event Client} {action : Action Event Client} (one : hub.OneAtATime)
    (alone : hub.Alone action) (taken : hub.step action = some next) :
    next.OneAtATime ∧ ∀ client, next.handed client ++ next.waiting client =
      hub.handed client ++ hub.waiting client ++ promised client hub action := by
  cases action with
  | subscribe other =>
    cases taken
    exact ⟨one, fun _ => (List.append_nil _).symm⟩
  | unsubscribe other =>
    cases taken
    exact ⟨one, fun _ => (List.append_nil _).symm⟩
  | publish event =>
    cases taken
    refine ⟨?_, fun client => by rw [waiting_publish, List.append_assoc]⟩
    intro publication member
    rw [List.dropLast_concat] at member
    exact alone publication member
  | call publication =>
    obtain ⟨event, other, rest, before, after, whole, -, rfl⟩ := call_eq taken
    -- a publication with a subscriber left to call is the newest
    have newest : after = [] := by
      rcases List.eq_nil_or_concat after with empty | ⟨front, last, rfl⟩
      · exact empty
      · have early : (event, other :: rest) ∈ hub.calling.dropLast := by
          rw [whole, List.concat_eq_append, ← List.cons_append, ← List.append_assoc, List.dropLast_concat]
          simp
        cases one _ early
    rw [OneAtATime, whole, newest, List.dropLast_concat] at one
    constructor
    · intro publication member
      rw [newest, List.dropLast_concat] at member
      exact one publication member
    · intro client
      rw [promised_call, List.append_nil, waiting, waiting, whole, newest, List.flatMap_append, List.flatMap_append,
        flatMap_due_of_done one, List.flatMap_singleton, List.flatMap_singleton, List.nil_append, List.nil_append]
      dsimp only
      by_cases same : other = client
      · rw [same, Function.update_self, due_cons_self, List.append_assoc, List.singleton_append]
      · rw [Function.update_of_ne (Ne.symm same), due_cons_of_ne event same]

/-- One publication at a time, each client is handed its events in the order in which they were published. -/
theorem run_in_order {actions : List (Action Event Client)} {hub last : Hub Event Client} (one : hub.OneAtATime)
    (alone : Transition.Guarded step Alone hub actions) (reached : Transition.run step hub actions = some last)
    (client : Client) :
    last.handed client ++ last.waiting client =
      hub.handed client ++ hub.waiting client ++ owed client hub.subscribers actions := by
  induction actions generalizing hub with
  | nil =>
    cases reached
    exact (List.append_nil _).symm
  | cons action rest ih =>
    obtain ⟨next, taken, reached⟩ := Option.bind_eq_some_iff.mp reached
    obtain ⟨still, same⟩ := one.step alone.1 taken
    rw [ih still (alone.2 next taken) reached, same, owed_cons taken, ← List.append_assoc]

end Hub

end Broadcast
