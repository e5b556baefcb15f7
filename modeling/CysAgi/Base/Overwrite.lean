import CysAgi.Base.Transition

/- Parties that change one record by reading it whole and writing it back whole, with other
   writes in between. -/
namespace Overwrite

structure Rules (Record Update : Type) where
  apply : Update → Record → Record
  Within : Record → Record → Prop
  refl : ∀ r, Within r r
  trans : ∀ {a b c}, Within a b → Within b c → Within a c
  grows : ∀ update r, Within r (apply update r)
  monotone : ∀ update {a b}, Within a b → Within (apply update a) (apply update b)

/-- The record, the copies read so far with the update each was read for, and the record that
    the written updates make one after the other. -/
structure Cell (Record Update : Type) where
  record : Record
  reads : List (Update × Record)
  serial : Record

def Cell.initial {Record Update : Type} (record : Record) : Cell Record Update :=
  { record, reads := [], serial := record }

inductive Move (Update : Type) where
  | read (update : Update)
  | write (read : Nat)
  /-- Reading and writing under a lock. -/
  | locked (update : Update)

section

variable {Record Update : Type} (rules : Rules Record Update)

def step (c : Cell Record Update) : Move Update → Option (Cell Record Update)
  | .read update => some { c with reads := c.reads ++ [(update, c.record)] }
  | .write read => c.reads[read]?.map fun taken =>
    { record := rules.apply taken.1 taken.2
      reads := c.reads.eraseIdx read
      serial := rules.apply taken.1 c.serial }
  | .locked update => some
    { c with record := rules.apply update c.record, serial := rules.apply update c.serial }

def Lossless (c : Cell Record Update) : Prop := rules.Within c.serial c.record

def Current (c : Cell Record Update) : Move Update → Prop
  | .write read => ∀ update copy, c.reads[read]? = some (update, copy) →
    rules.Within (rules.apply update c.record) (rules.apply update copy)
  | _ => True

structure Bounded (c : Cell Record Update) : Prop where
  record : rules.Within c.record c.serial
  copies : ∀ taken ∈ c.reads, rules.Within taken.2 c.serial

variable {rules}

theorem Bounded.initial (record : Record) : Bounded rules (Cell.initial record) :=
  ⟨rules.refl record, by simp [Cell.initial]⟩

theorem Bounded.step {c d : Cell Record Update} {move : Move Update} (bounded : Bounded rules c)
    (taken : step rules c move = some d) : Bounded rules d := by
  have copies_grown : ∀ update, ∀ taken ∈ c.reads, rules.Within taken.2 (rules.apply update c.serial) := by
    intro update taken member
    exact rules.trans (bounded.copies taken member) (rules.grows update c.serial)
  cases move with
  | read update =>
    cases taken
    refine ⟨bounded.record, ?_⟩
    intro taken member
    rcases List.mem_append.mp member with member | member
    · exact bounded.copies taken member
    · rw [List.mem_singleton.mp member]
      exact bounded.record
  | write read =>
    obtain ⟨⟨update, copy⟩, here, rfl⟩ := Option.map_eq_some_iff.mp taken
    have small := bounded.copies _ (List.mem_of_getElem? here)
    refine ⟨rules.monotone update small, ?_⟩
    intro taken member
    exact copies_grown update taken (List.mem_of_mem_eraseIdx member)
  | locked update =>
    cases taken
    exact ⟨rules.monotone update bounded.record, copies_grown update⟩

theorem lossless_step_iff {c d : Cell Record Update} {move : Move Update} (bounded : Bounded rules c)
    (held : Lossless rules c) (taken : step rules c move = some d) :
    Lossless rules d ↔ Current rules c move := by
  cases move with
  | read update =>
    cases taken
    exact ⟨fun _ => trivial, fun _ => held⟩
  | write read =>
    obtain ⟨⟨update, copy⟩, here, rfl⟩ := Option.map_eq_some_iff.mp taken
    constructor
    · intro lossless other snapshot same
      rw [here] at same
      cases same
      exact rules.trans (rules.monotone update bounded.record) lossless
    · intro current
      exact rules.trans (rules.monotone update held) (current update copy here)
  | locked update =>
    cases taken
    exact ⟨fun _ => trivial, fun _ => rules.monotone update held⟩

/-- No update is lost in a run exactly when every copy is current as it is written. -/
theorem lossless_iff_current {record : Record} {moves : List (Move Update)} {c : Cell Record Update}
    (reached : Transition.run (step rules) (.initial record) moves = some c) :
    Transition.Always (step rules) (Lossless rules) (.initial record) moves ↔
      Transition.Guarded (step rules) (Current rules) (.initial record) moves :=
  Transition.always_iff_guarded (Bounded rules) (fun _ _ _ bounded _ _ taken => bounded.step taken)
    (fun _ _ _ bounded held taken => lossless_step_iff bounded held taken) (.initial record)
    (rules.refl record) reached

end

end Overwrite
