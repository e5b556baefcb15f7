import Mathlib.Data.List.Basic

namespace EventStream

/-- A client of an event stream between two characters: the line it is in, the data of the event so far, and
    whether the last line ended in a carriage return, whose line feed is still to come. -/
structure Reader where
  line : List Char := []
  data : List Char := []
  afterReturn : Bool := false

def fieldValue : List Char → List Char
  | ':' :: ' ' :: value => value
  | ':' :: value => value
  | _ => []

def Reader.endLine (r : Reader) (afterReturn : Bool) : Reader × List (List Char) :=
  if r.line = [] then
    ({ afterReturn }, if r.data = [] then [] else [r.data.dropLast])
  else if r.line.takeWhile (fun c => c ≠ ':') = ['d', 'a', 't', 'a'] then
    ({ data := r.data ++ fieldValue (r.line.dropWhile fun c => c ≠ ':') ++ ['\n'], afterReturn }, [])
  else ({ data := r.data, afterReturn }, [])

def Reader.feed (r : Reader) (c : Char) : Reader × List (List Char) :=
  if c = '\n' then
    if r.afterReturn then ({ r with afterReturn := false }, []) else r.endLine false
  else if c = '\r' then r.endLine true
  else ({ r with line := r.line ++ [c], afterReturn := false }, [])

def Reader.read (r : Reader) : List Char → Reader × List (List Char)
  | [] => (r, [])
  | c :: rest =>
    let (next, handed) := r.feed c
    let (last, others) := next.read rest
    (last, handed ++ others)

/-- The data of the events of a stream. An event that is not ended is dropped. -/
def messages (stream : List Char) : List (List Char) := (({} : Reader).read stream).2

theorem read_append (r : Reader) (first second : List Char) :
    r.read (first ++ second) = (((r.read first).1.read second).1, (r.read first).2 ++ ((r.read first).1.read second).2) := by
  induction first generalizing r with
  | nil => rfl
  | cons c rest ih => simp only [List.cons_append, Reader.read, ih, List.append_assoc]

theorem messages_prefix {cut stream : List Char} (before : cut <+: stream) : messages cut <+: messages stream := by
  obtain ⟨rest, rfl⟩ := before
  rw [messages, messages, read_append]
  exact List.prefix_append _ _

def frame (text : List Char) : List Char := ['d', 'a', 't', 'a', ':', ' '] ++ text ++ ['\n', '\n']

def OneLine (text : List Char) : Prop := ∀ c ∈ text, c ≠ '\n' ∧ c ≠ '\r'

theorem read_line {text : List Char} (one : OneLine text) (line data : List Char) :
    ({ line, data } : Reader).read text = ({ line := line ++ text, data }, []) := by
  induction text generalizing line with
  | nil => simp only [Reader.read, List.append_nil]
  | cons c rest ih =>
    have plain := one c List.mem_cons_self
    have others : OneLine rest := fun d member => one d (List.mem_cons_of_mem _ member)
    simp only [Reader.read, Reader.feed, plain.1, plain.2, if_false, ih others, List.append_assoc, List.nil_append,
      List.singleton_append]

theorem read_frame {text : List Char} (one : OneLine text) : ({} : Reader).read (frame text) = ({}, [text]) := by
  have head : ∀ c ∈ ['d', 'a', 't', 'a', ':', ' '], c ≠ '\n' ∧ c ≠ '\r' := by simp
  have whole : OneLine (['d', 'a', 't', 'a', ':', ' '] ++ text) := by
    intro c member
    rcases List.mem_append.mp member with first | second
    · exact head c first
    · exact one c second
  have line := read_line whole [] []
  rw [frame, read_append, line]
  -- the first line feed adds the data, the second hands it over
  simp [Reader.read, Reader.feed, Reader.endLine, fieldValue]

/-- A client reads the texts that were framed, each as it was. -/
theorem messages_frames {texts : List (List Char)} (one : ∀ text ∈ texts, OneLine text) :
    messages (texts.flatMap frame) = texts := by
  have whole : ({} : Reader).read (texts.flatMap frame) = ({}, texts) := by
    induction texts with
    | nil => rfl
    | cons text texts ih =>
      have first := read_frame (one text List.mem_cons_self)
      have others := ih fun other member => one other (List.mem_cons_of_mem _ member)
      rw [List.flatMap_cons, read_append, first]
      dsimp only
      rw [others]
      rfl
  rw [messages, whole]

end EventStream
