import CysAgi.Base.Grouping
import CysAgi.Base.Json
import CysAgi.Base.Splitting
import CysAgi.Rag.Retrieve

open Py

namespace CysAgi

structure DocumentProvenance where
  sourceId : String
  sourceName : String := ""
  uploadedBy : String := ""
  contentHash : String := ""
  approved : Bool := false
  metadata : JsonDict := []

/-- A chunk as it is made, with what the retrieval does not read. -/
structure DocumentChunk extends RagChunk where
  owner : String := ""
  provenance : DocumentProvenance
  tokenEstimate : Nat := 0

def classifyText (lower : String → String) (text : String) : DataClassification :=
  let lowered := lower text
  if ["ssn", "passport", "credit card", "паспорт"].any fun k => contains lowered k then .restricted
  else if ["password", "api_key", "secret", "token"].any fun k => contains lowered k then .confidential
  else if ["internal only", "confidential"].any fun k => contains lowered k then .confidential
  else .internal

def blankLine : String := "\n\n"

def strippedParts (text : String) : List String :=
  ((splitOn blankLine text).filter fun part => strip part ≠ "").map strip

def paragraphsOf (text : String) : List String :=
  if strippedParts text = [] then (if strip text ≠ "" then [strip text] else []) else strippedParts text

def chunkTexts (maxChars : Int) : String → List String → List String
  | buffer, [] => if buffer ≠ "" then [buffer] else []
  | buffer, paragraph :: rest =>
    let candidate := if buffer ≠ "" then strip (buffer ++ blankLine ++ paragraph) else paragraph
    if maxChars < candidate.length ∧ buffer ≠ "" then buffer :: chunkTexts maxChars paragraph rest
    else chunkTexts maxChars candidate rest

/-- `_make_chunk`, given the hex digits of the new id. -/
def makeChunk (hex text : String) (provenance : DocumentProvenance) (tenant : String)
    (classification : DataClassification) (roles : List String) : DocumentChunk where
  chunkId := "chunk-" ++ String.ofList (hex.toList.take 12)
  text
  acl := { tenant, classification, roles }
  owner := provenance.uploadedBy
  provenance
  tokenEstimate := max 1 (text.length / 4)

/-- `chunk_document`, given the hex digits of its n-th new id and Python's `str.lower`. -/
def chunkDocument (uuidHex : Nat → String) (lower : String → String) (text : String) (provenance : DocumentProvenance)
    (tenant : String) (classification : DataClassification) (roles : List String) (maxChars : Int) :
    List DocumentChunk :=
  let roles := if roles = [] then ["analyst"] else roles
  let detected := classifyText lower text
  let effective := if classification.order < detected.order then detected else classification
  (chunkTexts maxChars "" (paragraphsOf text)).mapIdx fun n chunk =>
    makeChunk (uuidHex n) chunk provenance tenant effective roles

theorem trimmed_of_mem_strippedParts {text paragraph : String} (member : paragraph ∈ strippedParts text) :
    Trimmed paragraph := by
  obtain ⟨part, kept, rfl⟩ := List.mem_map.mp member
  have present := of_decide_eq_true (List.mem_filter.mp kept).2
  exact trimmed_strip present

theorem strip_eq_empty {text : String} (blank : visible text.toList = []) : strip text = "" := by
  by_contra present
  have trimmed := trimmed_strip present
  obtain ⟨c, starts, noSpace⟩ := Option.map_eq_some_iff.mp trimmed.first
  have shown : c ∈ visible (strip text).toList := by
    apply List.mem_filter.mpr
    exact ⟨List.mem_of_head? starts, by rw [noSpace]; rfl⟩
  rw [visible_strip, blank] at shown
  cases shown

theorem visible_joined (texts : List String) :
    visible (blankLine.intercalate texts).toList = (texts.map fun text => visible text.toList).flatten := by
  induction texts with
  | nil => rfl
  | cons text rest ih =>
    cases rest with
    | nil => simp
    | cons next rest =>
      have hidden : visible blankLine.toList = [] := by decide
      rw [String.intercalate_cons_of_ne_nil (List.cons_ne_nil next rest), String.toList_append,
        String.toList_append, visible_append, visible_append, hidden, ih]
      simp

theorem flatten_visible_kept (parts : List String) :
    (((parts.filter fun part => strip part ≠ "").map strip).map fun part => visible part.toList).flatten =
      (parts.map fun part => visible part.toList).flatten := by
  induction parts with
  | nil => rfl
  | cons part rest ih =>
    rw [List.map_cons, List.flatten_cons, ← ih, ← visible_strip part]
    by_cases blank : strip part = ""
    · simp [blank, visible]
    · simp [blank]

theorem visible_strippedParts (text : String) :
    visible (blankLine.intercalate (strippedParts text)).toList = visible text.toList := by
  have separated : blankLine.toList ≠ [] := by decide
  rw [strippedParts, visible_joined, flatten_visible_kept, ← visible_joined, intercalate_splitOn separated]

theorem paragraphsOf_eq (text : String) : paragraphsOf text = strippedParts text := by
  unfold paragraphsOf
  split
  · rename_i none
    have blank : visible text.toList = [] := by
      rw [← visible_strippedParts, none]
      rfl
    rw [strip_eq_empty blank, none]
    exact if_neg (not_not_intro rfl)
  · rfl

section

variable (maxChars : Int)

def overlong (group : List String) : Bool := decide (maxChars < (blankLine.intercalate group).length)

theorem trimmed_joined {group : List String} (started : group ≠ []) (trimmed : ∀ text ∈ group, Trimmed text) :
    Trimmed (blankLine.intercalate group) := by
  induction group with
  | nil => exact absurd rfl started
  | cons text rest ih =>
    cases rest with
    | nil =>
      rw [String.intercalate_singleton]
      exact trimmed text List.mem_cons_self
    | cons next rest =>
      rw [String.intercalate_cons_of_ne_nil (List.cons_ne_nil next rest)]
      have others := ih (List.cons_ne_nil next rest) fun other member => trimmed other (List.mem_cons_of_mem _ member)
      exact (trimmed text List.mem_cons_self).append others blankLine

theorem joined_concat {group : List String} (started : group ≠ []) (text : String) :
    blankLine.intercalate (group ++ [text]) = blankLine.intercalate group ++ blankLine ++ text := by
  rw [String.intercalate_append_of_ne_nil started (List.cons_ne_nil text []), String.intercalate_singleton]

theorem chunkTexts_cons {buffer paragraph : String} (buffered : Trimmed buffer) (single : Trimmed paragraph)
    (rest : List String) :
    chunkTexts maxChars buffer (paragraph :: rest) =
      if maxChars < (buffer ++ blankLine ++ paragraph).length then buffer :: chunkTexts maxChars paragraph rest
      else chunkTexts maxChars (buffer ++ blankLine ++ paragraph) rest := by
  have candidate : strip (buffer ++ blankLine ++ paragraph) = buffer ++ blankLine ++ paragraph :=
    strip_of_trimmed (buffered.append single blankLine)
  have present : buffer ≠ "" := buffered.ne_empty
  simp only [chunkTexts, if_pos present, candidate]
  by_cases longer : maxChars < (buffer ++ blankLine ++ paragraph).length
  · rw [if_pos ⟨longer, present⟩, if_pos longer]
  · rw [if_neg fun both => longer both.1, if_neg longer]

theorem chunkTexts_started {group : List String} (started : group ≠ []) {items : List String}
    (trimmed : ∀ text ∈ group ++ items, Trimmed text) :
    chunkTexts maxChars (blankLine.intercalate group) items =
      (Grouping.gather (overlong maxChars) group items).map blankLine.intercalate := by
  have buffered := trimmed_joined started fun text member => trimmed text (List.mem_append_left items member)
  induction items generalizing group with
  | nil =>
    rw [Grouping.gather_nil _ started]
    exact if_pos buffered.ne_empty
  | cons item rest ih =>
    have single := trimmed item (List.mem_append_right group List.mem_cons_self)
    rw [Grouping.gather_cons _ started, chunkTexts_cons maxChars buffered single, ← joined_concat started]
    by_cases longer : maxChars < (blankLine.intercalate (group ++ [item])).length
    · have closed : overlong maxChars (group ++ [item]) = true := decide_eq_true longer
      have fresh := ih (List.cons_ne_nil item []) (fun text member => trimmed text (List.mem_append_right group member))
      rw [String.intercalate_singleton] at fresh
      rw [if_pos longer, if_pos closed, List.map_cons, fresh single]
    · have opened : ¬ overlong maxChars (group ++ [item]) = true := fun closed => longer (of_decide_eq_true closed)
      have whole : ∀ text ∈ group ++ [item] ++ rest, Trimmed text := by
        simpa using trimmed
      have grown := trimmed_joined (List.concat_ne_nil item group) fun text member =>
        whole text (List.mem_append_left rest member)
      rw [if_neg longer, if_neg opened]
      exact ih (List.concat_ne_nil item group) whole grown

theorem chunkTexts_eq {items : List String} (trimmed : ∀ text ∈ items, Trimmed text) :
    chunkTexts maxChars "" items = (Grouping.gather (overlong maxChars) [] items).map blankLine.intercalate := by
  cases items with
  | nil => rfl
  | cons item rest =>
    have started := chunkTexts_started maxChars (List.cons_ne_nil item []) trimmed
    rw [String.intercalate_singleton] at started
    have opened : chunkTexts maxChars "" (item :: rest) = chunkTexts maxChars item rest := by
      simp [chunkTexts]
    exact opened.trans started

end

theorem joined_flatten {groups : List (List String)} (started : ∀ group ∈ groups, group ≠ []) :
    blankLine.intercalate (groups.map blankLine.intercalate) = blankLine.intercalate groups.flatten := by
  induction groups with
  | nil => rfl
  | cons group rest ih =>
    have others := ih fun other member => started other (List.mem_cons_of_mem group member)
    cases rest with
    | nil => simp
    | cons next rest =>
      have first := started group List.mem_cons_self
      have second : (next :: rest).flatten ≠ [] := by
        have present := started next (List.mem_cons_of_mem group List.mem_cons_self)
        rw [List.flatten_cons]
        exact fun none => present (List.append_eq_nil_iff.mp none).1
      have more : (next :: rest).map blankLine.intercalate ≠ [] := List.cons_ne_nil _ _
      have whole : (group :: next :: rest).flatten = group ++ (next :: rest).flatten := List.flatten_cons
      rw [List.map_cons, String.intercalate_cons_of_ne_nil more, others, whole,
        String.intercalate_append_of_ne_nil first second]

section

variable (uuidHex : Nat → String) (lower : String → String) (text : String) (provenance : DocumentProvenance)
    (tenant : String) (classification : DataClassification) (roles : List String) (maxChars : Int)

theorem texts_chunkDocument :
    (chunkDocument uuidHex lower text provenance tenant classification roles maxChars).map (fun chunk => chunk.text) =
      (Grouping.gather (overlong maxChars) [] (strippedParts text)).map blankLine.intercalate := by
  have trimmed : ∀ paragraph ∈ strippedParts text, Trimmed paragraph := fun _ member =>
    trimmed_of_mem_strippedParts member
  rw [← chunkTexts_eq maxChars trimmed, ← paragraphsOf_eq]
  apply List.ext_getElem?
  intro n
  simp only [chunkDocument, List.getElem?_map, List.getElem?_mapIdx, Option.map_map, Function.comp_def, makeChunk,
    Option.map_id']

/-- The chunks of a document hold its stripped paragraphs in order, within the bound where they hold several, and
    are classified no lower than was asked or found. -/
structure ChunksOf (chunks : List DocumentChunk) : Prop where
  joined : blankLine.intercalate (chunks.map fun chunk => chunk.text) = blankLine.intercalate (strippedParts text)
  nonempty : ∀ chunk ∈ chunks, chunk.text ≠ ""
  bounded : ∀ chunk ∈ chunks, maxChars < chunk.text.length → chunk.text ∈ strippedParts text
  requested : ∀ chunk ∈ chunks, classification.order ≤ chunk.acl.classification.order
  detected : ∀ chunk ∈ chunks, (classifyText lower text).order ≤ chunk.acl.classification.order

theorem classification_of_mem {chunk : DocumentChunk}
    (member : chunk ∈ chunkDocument uuidHex lower text provenance tenant classification roles maxChars) :
    classification.order ≤ chunk.acl.classification.order ∧
      (classifyText lower text).order ≤ chunk.acl.classification.order := by
  obtain ⟨n, bound, rfl⟩ := List.mem_mapIdx.mp member
  simp only [makeChunk]
  split <;> omega

theorem gathered_of_mem {chunk : DocumentChunk}
    (member : chunk ∈ chunkDocument uuidHex lower text provenance tenant classification roles maxChars) :
    ∃ group ∈ Grouping.gather (overlong maxChars) [] (strippedParts text), blankLine.intercalate group = chunk.text := by
  have placed := List.mem_map_of_mem (f := fun chunk => chunk.text) member
  rw [texts_chunkDocument] at placed
  exact List.mem_map.mp placed

theorem joined_chunkDocument : blankLine.intercalate
    ((chunkDocument uuidHex lower text provenance tenant classification roles maxChars).map fun chunk => chunk.text) =
      blankLine.intercalate (strippedParts text) := by
  rw [texts_chunkDocument, joined_flatten, Grouping.flatten_gather]
  intro group placed
  exact (Grouping.fits_gather placed).nonempty

theorem chunks_show_document :
    visible (blankLine.intercalate ((chunkDocument uuidHex lower text provenance tenant classification roles
      maxChars).map fun chunk => chunk.text)).toList = visible text.toList := by
  rw [joined_chunkDocument]
  exact visible_strippedParts text

/-- For any document, bound and requested classification. -/
theorem chunking_loses_nothing : ChunksOf lower text classification maxChars
    (chunkDocument uuidHex lower text provenance tenant classification roles maxChars) := by
  constructor
  · exact joined_chunkDocument uuidHex lower text provenance tenant classification roles maxChars
  · intro chunk member
    obtain ⟨group, placed, joined⟩ := gathered_of_mem _ _ _ _ _ _ _ _ member
    have trimmed : ∀ paragraph ∈ group, Trimmed paragraph := fun paragraph inside =>
      trimmed_of_mem_strippedParts (Grouping.mem_of_mem_gather _ placed inside)
    rw [← joined]
    exact (trimmed_joined (Grouping.fits_gather placed).nonempty trimmed).ne_empty
  · intro chunk member longer
    obtain ⟨group, placed, joined⟩ := gathered_of_mem _ _ _ _ _ _ _ _ member
    rcases (Grouping.fits_gather placed).bounded with within | ⟨paragraph, rfl⟩
    · have short := of_decide_eq_false within
      rw [joined] at short
      exact absurd longer short
    · rw [← joined, String.intercalate_singleton]
      exact Grouping.mem_of_mem_gather _ placed (List.mem_singleton_self paragraph)
  · intro chunk member
    exact (classification_of_mem _ _ _ _ _ _ _ _ member).1
  · intro chunk member
    exact (classification_of_mem _ _ _ _ _ _ _ _ member).2

end

example : chunkTexts 12 "" (paragraphsOf " Alert.\n\nUp.\n \n\nClosed.") = ["Alert.\n\nUp.", "Closed."] := by
  decide +kernel

end CysAgi
