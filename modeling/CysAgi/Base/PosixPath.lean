import CysAgi.Base.Text

namespace Py

theorem not_mem_of_mem_splitOn {α : Type} [DecidableEq α] {separator : α} {text part : List α}
    (member : part ∈ text.splitOn separator) : separator ∉ part := by
  induction text generalizing part with
  | nil =>
    rw [List.splitOn_nil, List.mem_singleton] at member
    simp [member]
  | cons c rest ih =>
    rw [List.splitOn_cons_eq_if_modifyHead] at member
    split at member
    · rcases List.mem_cons.mp member with rfl | later
      · exact List.not_mem_nil
      · exact ih later
    · rename_i other
      obtain ⟨first, others, parts⟩ := List.exists_cons_of_ne_nil (List.splitOn_ne_nil separator rest)
      rw [parts, List.modifyHead_cons] at member
      rw [parts] at ih
      rcases List.mem_cons.mp member with rfl | later
      · rw [List.mem_cons, not_or]
        exact ⟨fun same => other (by simp [same]), ih List.mem_cons_self⟩
      · exact ih (List.mem_cons_of_mem first later)

def segments (text : String) : List String :=
  ((text.toList.splitOn '/').map String.ofList).filter fun part => part ≠ "" ∧ part ≠ "."

structure PlainName (name : String) : Prop where
  nonempty : name ≠ ""
  notDot : name ≠ "."
  notParent : name ≠ ".."
  noSlash : '/' ∉ name.toList

theorem mem_segments {text part : String} (member : part ∈ segments text) :
    part ≠ "" ∧ part ≠ "." ∧ '/' ∉ part.toList := by
  obtain ⟨member, kept⟩ := List.mem_filter.mp member
  obtain ⟨chars, split, rfl⟩ := List.mem_map.mp member
  have named := of_decide_eq_true kept
  refine ⟨named.1, named.2, ?_⟩
  rw [String.toList_ofList]
  exact not_mem_of_mem_splitOn split

theorem PlainName.segments {name : String} (plain : PlainName name) : segments name = [name] := by
  unfold Py.segments
  rw [List.splitOn_eq_singleton plain.noSlash]
  simp [plain.nonempty, plain.notDot]

theorem startsWith_slash {name : String} (plain : '/' ∉ name.toList) : startsWith name "/" = false := by
  unfold startsWith
  cases spelled : name.toList with
  | nil => rfl
  | cons c rest =>
    rw [spelled, List.mem_cons, not_or] at plain
    simp [List.isPrefixOf, plain.1]

structure PurePath where
  absolute : Bool
  parts : List String

namespace PurePath

/-- `Path(text)`. -/
def ofText (text : String) : PurePath := { absolute := startsWith text "/", parts := segments text }

/-- `path / text`. An absolute text takes the place of the path. -/
def join (path : PurePath) (text : String) : PurePath :=
  if startsWith text "/" then ofText text else { path with parts := path.parts ++ segments text }

def name (path : PurePath) : String := path.parts.getLast?.getD ""

def walk (place parts : List String) : List String :=
  parts.foldl (fun place part => if part = ".." then place.dropLast else place ++ [part]) place

/-- `path.resolve()`, as the components of an absolute path. -/
def resolve (cwd : List String) (path : PurePath) : List String := walk (if path.absolute then [] else cwd) path.parts

theorem walk_append (place first second : List String) :
    walk place (first ++ second) = walk (walk place first) second := List.foldl_append

theorem resolve_join_plain {name : String} (plain : PlainName name) (cwd : List String) (path : PurePath) :
    (path.join name).resolve cwd = path.resolve cwd ++ [name] := by
  unfold join
  rw [startsWith_slash plain.noSlash, if_neg Bool.false_ne_true, plain.segments]
  unfold resolve
  rw [walk_append]
  change (if name = ".." then _ else _ ++ [name]) = _
  rw [if_neg plain.notParent]

theorem name_join_plain {name : String} (plain : PlainName name) (path : PurePath) : (path.join name).name = name := by
  unfold join
  rw [startsWith_slash plain.noSlash, if_neg Bool.false_ne_true, plain.segments]
  simp [PurePath.name]

theorem name_cases (text : String) :
    (ofText text).name = "" ∨ (ofText text).name = ".." ∨ PlainName (ofText text).name := by
  unfold name ofText
  dsimp only
  cases last : (segments text).getLast? with
  | none => exact .inl rfl
  | some part =>
    obtain ⟨nonempty, notDot, noSlash⟩ := mem_segments (List.mem_of_getLast? last)
    by_cases parent : part = ".."
    · exact .inr (.inl parent)
    · exact .inr (.inr ⟨nonempty, notDot, parent, noSlash⟩)

end PurePath

end Py
