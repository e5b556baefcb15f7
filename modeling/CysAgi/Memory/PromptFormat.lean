import CysAgi.Base.Packing
import CysAgi.Workers.RunWorkerJob

namespace CysAgi

open Packing

def promptLine (entry : MemoryEntry) : String :=
  let mark := if entry.memoryType = "pending_finding" then "[UNTRUSTED PENDING] " else ""
  let agent := if entry.sourceAgent = "" then "agent" else entry.sourceAgent
  "- " ++ mark ++ agent ++ ": " ++ entry.content ++ " (type=" ++ entry.memoryType ++ ", job=" ++
    entry.sourceJobId ++ ")"

/-- The loop of `format_for_prompt`; `total` has no count of the line breaks. -/
def promptLines (maxChars : Int) : Nat → List MemoryEntry → List String
  | _, [] => []
  | total, entry :: rest =>
    let line := promptLine entry
    if ((total + line.length : Nat) : Int) > maxChars then []
    else line :: promptLines maxChars (total + line.length) rest

def formatForPrompt (entries : List MemoryEntry) (maxChars : Int := 4000) : String :=
  if entries = [] then "" else "\n".intercalate (promptLines maxChars 0 entries)

def rendered (entries : List MemoryEntry) : String := "\n".intercalate (entries.map promptLine)

def lineLength (entry : MemoryEntry) : Nat := (promptLine entry).length

theorem promptLines_eq (maxChars : Int) (total : Nat) (entries : List MemoryEntry) :
    promptLines maxChars total entries = (takeWithin lineLength maxChars total entries).map promptLine := by
  induction entries generalizing total with
  | nil => rfl
  | cons entry rest ih =>
    by_cases above : ((total + (promptLine entry).length : Nat) : Int) > maxChars
    · rw [promptLines, takeWithin, lineLength, if_pos above, if_pos above]
      rfl
    · rw [promptLines, takeWithin, lineLength, if_neg above, if_neg above, ih]
      rfl

theorem formatForPrompt_eq (entries : List MemoryEntry) (maxChars : Int) :
    formatForPrompt entries maxChars = rendered (takeWithin lineLength maxChars 0 entries) := by
  by_cases empty : entries = []
  · rw [formatForPrompt, if_pos empty, empty]
    rfl
  · rw [formatForPrompt, if_neg empty, promptLines_eq, rendered]

theorem length_intercalate (separator : String) (lines : List String) :
    (separator.intercalate lines).length = spaced String.length separator.length lines := by
  induction lines with
  | nil => simp [spaced, load]
  | cons line rest ih =>
    by_cases last : rest = []
    · subst last
      simp [spaced, load]
    · have remaining : 0 < rest.length := List.length_pos_of_ne_nil last
      have gaps : separator.length * rest.length = separator.length * (rest.length - 1) + separator.length := by
        rw [← Nat.mul_succ, Nat.succ_eq_add_one, Nat.sub_add_cancel remaining]
      rw [String.intercalate_cons_of_ne_nil last, String.length_append, String.length_append, ih, spaced, spaced,
        load_cons, List.length_cons, Nat.add_sub_cancel, gaps]
      omega

theorem length_rendered (entries : List MemoryEntry) :
    (rendered entries).length = spaced lineLength 1 entries := by
  have one : "\n".length = 1 := by decide
  have lengths : String.length ∘ promptLine = lineLength := by
    funext entry
    rw [Function.comp_apply, lineLength]
  rw [rendered, length_intercalate, one, spaced, spaced, load, load, List.map_map, List.length_map, lengths]

/-- The text keeps to the limit, and is the longest beginning of the entries that does. -/
def Budgeted (entries : List MemoryEntry) (maxChars : Int) (text : String) : Prop :=
  (text.length : Int) ≤ maxChars ∧
  ∃ shown, shown <+: entries ∧ text = rendered shown ∧
    ∀ other, other <+: entries → ((rendered other).length : Int) ≤ maxChars → other <+: shown

/-- Wherever the lines alone fit, the line breaks between them fit as well. -/
def BreaksFit (entries : List MemoryEntry) (maxChars : Int) : Prop :=
  ∀ part, part <+: entries → ((part.map lineLength).sum : Int) ≤ maxChars →
    (((part.map lineLength).sum + (part.length - 1) : Nat) : Int) ≤ maxChars

theorem breaksFit_iff {entries : List MemoryEntry} {maxChars : Int} (room : 0 ≤ maxChars) :
    BreaksFit entries maxChars ↔ ((formatForPrompt entries maxChars).length : Int) ≤ maxChars := by
  rw [formatForPrompt_eq, length_rendered, spaced_takeWithin_le_iff 1 room]
  simp only [BreaksFit, spaced, load, Nat.one_mul]

theorem longest_shown {entries other : List MemoryEntry} {maxChars : Int} (beginning : other <+: entries)
    (fits : ((rendered other).length : Int) ≤ maxChars) : other <+: takeWithin lineLength maxChars 0 entries := by
  rw [length_rendered] at fits
  exact prefix_takeWithin_of_spaced beginning fits

/-- The running total has no line breaks, so the text overruns where only they do not fit. -/
theorem prompt_budgeted_iff (entries : List MemoryEntry) (maxChars : Int) :
    Budgeted entries maxChars (formatForPrompt entries maxChars) ↔ 0 ≤ maxChars ∧ BreaksFit entries maxChars := by
  constructor
  · rintro ⟨within, -⟩
    have room : 0 ≤ maxChars := by omega
    exact ⟨room, (breaksFit_iff room).mpr within⟩
  · rintro ⟨room, fits⟩
    refine ⟨(breaksFit_iff room).mp fits, takeWithin lineLength maxChars 0 entries, takeWithin_prefix,
      formatForPrompt_eq entries maxChars, ?_⟩
    intro other beginning within
    exact longest_shown beginning within

def beaconEntry : MemoryEntry :=
  { sourceAgent := "soc", memoryType := "finding", content := "beacon", sourceJobId := "job-1" }

/-- Two lines fill the budget, and the line break between them is one character more. -/
theorem prompt_overruns :
    (formatForPrompt [beaconEntry, beaconEntry] 78).length = 79 ∧
    ¬ Budgeted [beaconEntry, beaconEntry] 78 (formatForPrompt [beaconEntry, beaconEntry] 78) := by
  have overrun : (formatForPrompt [beaconEntry, beaconEntry] 78).length = 79 := by decide +kernel
  refine ⟨overrun, fun budgeted => ?_⟩
  have within := budgeted.1
  rw [overrun] at within
  omega

end CysAgi
