import Mathlib.Data.List.DropRight
import Mathlib.Data.List.Infix

namespace Py

/-- `str.isspace` of one character. -/
def isSpace (c : Char) : Bool :=
  (9 ≤ c.toNat ∧ c.toNat ≤ 13) ∨ (0x1C ≤ c.toNat ∧ c.toNat ≤ 0x20) ∨ (0x2000 ≤ c.toNat ∧ c.toNat ≤ 0x200A) ∨
    c.toNat ∈ [0x85, 0xA0, 0x1680, 0x2028, 0x2029, 0x202F, 0x205F, 0x3000]

def strip (text : String) : String :=
  String.ofList ((text.toList.dropWhile isSpace).rdropWhile isSpace)

def startsWith (text start : String) : Bool := start.toList.isPrefixOf text.toList

/-- `part in text`. -/
def contains (text part : String) : Bool := text.toList.tails.any fun rest => part.toList.isPrefixOf rest

/-- `items[:stop]`, where a negative bound counts from the end. -/
def sliceTo (items : List α) (stop : Int) : List α :=
  items.take (if 0 ≤ stop then stop.toNat else items.length - (-stop).toNat)

theorem sliceTo_map {β : Type} (f : α → β) (items : List α) (stop : Int) :
    (sliceTo items stop).map f = sliceTo (items.map f) stop := by
  unfold sliceTo
  rw [List.map_take, List.length_map]

theorem sliceTo_of_nonneg (items : List α) {stop : Int} (nonneg : 0 ≤ stop) :
    sliceTo items stop = items.take stop.toNat := by
  unfold sliceTo
  rw [if_pos nonneg]

theorem sliceTo_of_neg (items : List α) {stop : Int} (negative : ¬ 0 ≤ stop) :
    sliceTo items stop = items.take (items.length - (-stop).toNat) := by
  unfold sliceTo
  rw [if_neg negative]

theorem contains_iff (text part : String) : contains text part = true ↔ part.toList <:+: text.toList := by
  unfold contains
  rw [List.any_eq_true, List.infix_iff_prefix_suffix]
  constructor
  · intro ⟨rest, member, starts⟩
    exact ⟨rest, List.isPrefixOf_iff_prefix.mp starts, (List.mem_tails rest _).mp member⟩
  · intro ⟨rest, starts, ends⟩
    exact ⟨rest, (List.mem_tails rest _).mpr ends, List.isPrefixOf_iff_prefix.mpr starts⟩

theorem prefix_rdropWhile {p : α → Bool} {start : List α} {last : α} (kept : p last = false) (rest : List α) :
    start ++ [last] <+: (start ++ [last] ++ rest).rdropWhile p := by
  induction rest using List.reverseRecOn with
  | nil =>
    rw [List.append_nil, List.rdropWhile_concat, kept]
    exact List.prefix_rfl
  | append_singleton rest next ih =>
    rw [← List.append_assoc, List.rdropWhile_concat]
    cases p next
    · exact (List.prefix_append _ rest).trans (List.prefix_append _ [next])
    · exact ih

theorem startsWith_strip {first last : Char} {middle rest : List Char} {word text : String}
    (spelled : word.toList = first :: (middle ++ [last])) (noSpace : isSpace first = false)
    (kept : isSpace last = false) (same : text.toList = word.toList ++ rest) :
    startsWith (strip text) word = true := by
  have whole : text.toList.dropWhile isSpace = first :: middle ++ [last] ++ rest := by
    rw [same, spelled, List.cons_append, List.dropWhile_cons_of_neg (by rw [noSpace]; exact Bool.false_ne_true)]
    simp only [List.cons_append]
  unfold startsWith strip
  rw [List.isPrefixOf_iff_prefix, String.toList_ofList, whole, spelled, ← List.cons_append]
  exact prefix_rdropWhile kept rest

end Py
