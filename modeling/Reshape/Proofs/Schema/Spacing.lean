import Reshape.Proofs.Keyed
import Reshape.Proofs.Schema.Grammar
import Reshape.Proofs.Text.Lines
import Reshape.Schema.Reader

namespace Reshape

open Text

namespace Text

def withReturns (text : List Char) : List Char :=
  text.flatMap fun c ↦ if c = '\n' then ['\r', '\n'] else [c]

theorem withReturns_of_not_mem {piece : List Char} (h : '\n' ∉ piece) :
    withReturns piece = piece := by
  induction piece with
  | nil => rfl
  | cons c rest ih =>
    have hc : c ≠ '\n' := fun he ↦ h (he ▸ List.mem_cons_self)
    have hrest := ih fun hmem ↦ h (List.mem_cons_of_mem c hmem)
    rw [withReturns] at hrest
    rw [withReturns, List.flatMap_cons, if_neg hc, hrest, List.singleton_append]

theorem withReturns_append {piece : List Char} (h : '\n' ∉ piece) (text : List Char) :
    withReturns (piece ++ '\n' :: text) = (piece ++ ['\r']) ++ '\n' :: withReturns text := by
  have hpiece := withReturns_of_not_mem h
  rw [withReturns] at hpiece
  rw [withReturns, List.flatMap_append, List.flatMap_cons, hpiece, if_pos rfl]
  simp [withReturns]

theorem map_trim_lines_withReturns (text : List Char) :
    (lines (withReturns text)).map trim = (lines text).map trim := by
  have hfeed : ∀ piece ∈ (splitOn '\n' text).1 :: (splitOn '\n' text).2, '\n' ∉ piece :=
    fun _ ↦ not_mem_of_mem_splitOn
  rw [← joinWith_splitOn '\n' text]
  generalize (splitOn '\n' text).1 = piece, (splitOn '\n' text).2 = pieces at hfeed
  induction pieces generalizing piece with
  | nil => rw [joinWith, withReturns_of_not_mem (hfeed piece List.mem_cons_self)]
  | cons next rest ih =>
    obtain ⟨hpiece, hrest⟩ := List.forall_mem_cons.1 hfeed
    have hreturn : '\n' ∉ piece ++ ['\r'] := by simpa using hpiece
    rw [joinWith, withReturns_append hpiece, lines_append hreturn, lines_append hpiece,
      dropReturn_concat, List.map_cons, List.map_cons, trim_dropReturn, ih next hrest]

end Text

def ParseError.renumber (f : Nat → Nat) : ParseError → ParseError
  | .badLine group line reason => .badLine group (f line) reason
  | .repeatedPath group path line firstLine => .repeatedPath group path (f line) (f firstLine)
  | .repeatedGroup group line firstLine => .repeatedGroup group (f line) (f firstLine)

namespace Schema

structure Padding where
  /-- Every line after the blank lines that are put in front of it. -/
  entries : List (List (List Char) × List Char)
  /-- The blank lines that are put at the end. -/
  rest : List (List Char)
  blank : ∀ raw ∈ entries.flatMap (·.1) ++ rest, Blanks raw

namespace Padding

variable (p : Padding)

def bare : List (List Char) := p.entries.map (·.2)

def padded : List (List Char) := p.entries.flatMap (fun entry ↦ entry.1 ++ [entry.2]) ++ p.rest

/-- What the number of a line becomes: the blank lines in front of it count as well. -/
def shift (line : Nat) : Nat := line + ((p.entries.take line).flatMap (·.1)).length

end Padding

def Declared.renumber (f : Nat → Nat) (d : Declared) : Declared := { d with line := f d.line }

def Current.renumber (f : Nat → Nat) (c : Current) : Current :=
  { c with seen := c.seen.map fun e ↦ (e.1, e.2.renumber f) }

namespace ReaderState

variable {repeats : Repeats} {f : Nat → Nat} {raw raw' : List Char} {line : Nat}

def renumber (f : Nat → Nat) (s : ReaderState) : ReaderState :=
  { s with
    headers := s.headers.map fun e ↦ (e.1, e.2.renumber f)
    current := s.current.map (·.renumber f) }

def renumbered (f : Nat → Nat) (result : Except ParseError ReaderState) :
    Except ParseError ReaderState :=
  (result.map (·.renumber f)).mapError (·.renumber f)

theorem current?_renumber (s : ReaderState) :
    (s.renumber f).current? = s.current?.map fun (c, g) ↦ (c.renumber f, g) := by
  cases hc : s.current with
  | none => simp [current?, renumber, hc]
  | some c => simp [current?, renumber, hc, Current.renumber, Function.comp_def]

theorem enter_renumber (s : ReaderState) (name : String) (line : Nat) :
    (s.renumber f).enter repeats name (f line) = renumbered f (s.enter repeats name line) := by
  have hget := Keyed.get?_map (Declared.renumber f) name s.headers
  cases hfirst : s.headers.get? name with
  | none =>
    have hinsert := Keyed.insert_map (Declared.renumber f) name ⟨s.groups.length, line⟩ s.headers
    rw [hfirst, Option.map_none] at hget
    simp only [enter, hfirst, renumber, hget, renumbered, Except.map, Except.mapError, hinsert]
    rfl
  | some first =>
    rw [hfirst, Option.map_some] at hget
    simp only [enter, hfirst, renumber, hget]
    cases repeats <;> rfl

theorem declare_renumber (s : ReaderState) (c : Current) (g : FieldGroup) (m : Mapping)
    (line : Nat) : (s.renumber f).declare repeats (c.renumber f) g m (f line) =
      renumbered f (s.declare repeats c g m line) := by
  have hget := Keyed.get?_map (Declared.renumber f) m.modelPath c.seen
  cases hfirst : c.seen.get? m.modelPath with
  | none =>
    have hinsert :=
      Keyed.insert_map (Declared.renumber f) m.modelPath ⟨g.mappings.length, line⟩ c.seen
    rw [hfirst, Option.map_none] at hget
    simp only [declare, hfirst, renumber, Current.renumber, hget, renumbered, Except.map,
      Except.mapError, Option.map_some, hinsert]
    rfl
  | some first =>
    rw [hfirst, Option.map_some] at hget
    simp only [declare, hfirst, Current.renumber, hget]
    cases repeats <;> rfl

/-- A line is read in the same way whatever its number is. -/
theorem readLine_renumber (s : ReaderState) (raw : List Char) (line : Nat) :
    (s.renumber f).readLine repeats raw (f line) =
      renumbered f (s.readLine repeats raw line) := by
  have hcurrent := s.current?_renumber (f := f)
  cases hl : Line.ofText raw with
  | error reason =>
    simp only [readLine, hl, hcurrent, Option.map_map, Function.comp_def]
    rfl
  | ok l =>
    cases l with
    | blank =>
      simp only [readLine, hl]
      rfl
    | header name =>
      simp only [readLine, hl]
      exact s.enter_renumber name line
    | mapping m =>
      cases hopen : s.current? with
      | none =>
        rw [hopen, Option.map_none] at hcurrent
        simp only [readLine, hl, hopen, hcurrent]
        rfl
      | some open' =>
        rw [hopen, Option.map_some] at hcurrent
        simp only [readLine, hl, hopen, hcurrent]
        exact s.declare_renumber open'.1 open'.2 m line

/-- Blanks around a line do not show in what is read, not even in the text of an error. -/
theorem readLine_congr (h : trim raw' = trim raw) (s : ReaderState) (line : Nat) :
    s.readLine repeats raw' line = s.readLine repeats raw line := by
  rw [readLine, readLine, Line.ofText_congr h, h]

theorem readLines_congr {raws raws' : List (List Char)} (h : raws'.map trim = raws.map trim)
    (s : ReaderState) (line : Nat) :
    s.readLines repeats line raws' = s.readLines repeats line raws := by
  induction raws generalizing raws' s line with
  | nil => rw [List.map_eq_nil_iff.1 h]
  | cons raw rest ih =>
    obtain ⟨raw', rest', rfl, hraw, hrest⟩ := List.map_eq_cons_iff.1 h
    simp only [readLines, readLine_congr hraw]
    cases s.readLine repeats raw line with
    | error e => rfl
    | ok next => exact ih hrest next (line + 1)

theorem readLines_blanks_append {blanks : List (List Char)} (h : ∀ raw ∈ blanks, Blanks raw)
    (s : ReaderState) (line : Nat) (raws : List (List Char)) :
    s.readLines repeats line (blanks ++ raws) =
      s.readLines repeats (line + blanks.length) raws := by
  induction blanks generalizing line with
  | nil => rfl
  | cons raw rest ih =>
    obtain ⟨hraw, hrest⟩ := List.forall_mem_cons.1 h
    have hread : s.readLine repeats raw line = .ok s := by
      rw [readLine, Line.ofText_eq_ok_iff.2 (.blank hraw)]
    rw [List.cons_append, readLines, hread, List.length_cons, ← Nat.add_assoc,
      Nat.add_right_comm]
    exact ih hrest (line + 1)

theorem readLines_blanks {blanks : List (List Char)} (h : ∀ raw ∈ blanks, Blanks raw)
    (s : ReaderState) (line : Nat) : s.readLines repeats line blanks = .ok s := by
  have hread : s.readLines repeats line (blanks ++ []) = .ok s :=
    readLines_blanks_append h s line []
  rwa [List.append_nil] at hread

/-- On the entries that are left, which stand for the lines from `line` on in the one numbering and
from `line'` on in the other. -/
theorem readLines_padded {entries : List (List (List Char) × List Char)}
    {rest : List (List Char)} {line' : Nat}
    (hblank : ∀ raw ∈ entries.flatMap (·.1) ++ rest, Blanks raw)
    (hf : ∀ i < entries.length,
      f (line + i) = line' + i + ((entries.take (i + 1)).flatMap (·.1)).length)
    (s : ReaderState) : (s.renumber f).readLines repeats line'
        (entries.flatMap (fun entry ↦ entry.1 ++ [entry.2]) ++ rest) =
      renumbered f (s.readLines repeats line (entries.map (·.2))) := by
  induction entries generalizing s line line' with
  | nil => exact readLines_blanks hblank _ line'
  | cons entry entries ih =>
    obtain ⟨gap, raw⟩ := entry
    simp only [List.flatMap_cons, List.append_assoc, List.forall_mem_append] at hblank
    obtain ⟨hgap, hmore⟩ := hblank
    have hhere : f line = line' + gap.length := by simpa using hf 0 (by simp)
    have hnext : ∀ i < entries.length, f (line + 1 + i) =
        line' + gap.length + 1 + i + ((entries.take (i + 1)).flatMap (·.1)).length := by
      intro i hi
      have hthere := hf (i + 1) (by simpa using hi)
      simp only [List.take_succ_cons, List.flatMap_cons, List.length_append] at hthere
      rw [Nat.add_assoc line 1 i, Nat.add_comm 1 i, hthere]
      omega
    rw [List.flatMap_cons, List.append_assoc, List.append_assoc, readLines_blanks_append hgap,
      List.singleton_append, List.map_cons, readLines, readLines, ← hhere, readLine_renumber]
    cases s.readLine repeats raw line with
    | error e => rfl
    | ok next =>
      rw [hhere]
      exact ih (List.forall_mem_append.2 hmore) hnext next

end ReaderState

theorem parse_eq_of_trim {repeats : Repeats} {text text' : String}
    (h : (lines text'.toList).map trim = (lines text.toList).map trim) :
    parse repeats text' = parse repeats text := by
  rw [parse, parse, ReaderState.readLines_congr h]

theorem parse_padded (repeats : Repeats) {text text' : String} {p : Padding}
    (h : lines text.toList = p.bare) (h' : lines text'.toList = p.padded) :
    parse repeats text' = (parse repeats text).mapError (·.renumber p.shift) := by
  have hshift : ∀ i < p.entries.length,
      p.shift (1 + i) = 1 + i + ((p.entries.take (i + 1)).flatMap (·.1)).length := by
    intro i _
    rw [Padding.shift, Nat.add_comm 1 i]
  have hread : ReaderState.start.readLines repeats 1 p.padded =
      ReaderState.renumbered p.shift (ReaderState.start.readLines repeats 1 p.bare) :=
    ReaderState.readLines_padded p.blank hshift .start
  rw [parse, parse, h, h', hread]
  cases ReaderState.start.readLines repeats 1 p.bare with
  | error e => rfl
  | ok s => rfl

/-- What a schema is read as does not depend on blanks around its lines, nor on how these are ended,
and blank lines do no more than move the lines that errors tell of. -/
theorem parse_spacing (repeats : Repeats) :
    (∀ text text' : String, (lines text'.toList).map trim = (lines text.toList).map trim →
      parse repeats text' = parse repeats text) ∧
    (∀ text : String, parse repeats (.ofList (withReturns text.toList)) = parse repeats text) ∧
    ∀ (text text' : String) (p : Padding), lines text.toList = p.bare →
      lines text'.toList = p.padded →
      parse repeats text' = (parse repeats text).mapError (·.renumber p.shift) := by
  refine ⟨fun text text' h ↦ parse_eq_of_trim h, fun text ↦ ?_, fun text text' p h h' ↦
    parse_padded repeats h h'⟩
  refine parse_eq_of_trim ?_
  rw [String.toList_ofList]
  exact map_trim_lines_withReturns text.toList

/-- A path that is repeated, found between other blanks and between blank lines. -/
theorem parse_spacing_repeated :
    let text := "a:\n x: t\n x: u"
    let indented := "\u3000a:\r\n\tx: t\x0b\nx: u\u2028"
    let spaced := "a:\n\n  \n x: t\r\n\t\n x: u\n "
    parse .refuse text = .error (.repeatedPath "a" "x" 3 2) ∧
      parse .refuse indented = .error (.repeatedPath "a" "x" 3 2) ∧
      parse .refuse spaced = .error (.repeatedPath "a" "x" 6 4) ∧
      parse .replace spaced = .ok ⟨[⟨"a", [⟨"x", "u", "x"⟩]⟩]⟩ := by
  intro text indented spaced
  let p : Padding :=
    { entries := [([], "a:".toList), (["".toList, "  ".toList], " x: t".toList),
        (["\t".toList], " x: u".toList)]
      rest := [" ".toList]
      blank := by decide }
  have hrefuse : parse .refuse text = .error (.repeatedPath "a" "x" 3 2) := by
    dsimp only [text]
    rfl
  have hreplace : parse .replace text = .ok ⟨[⟨"a", [⟨"x", "u", "x"⟩]⟩]⟩ := by
    dsimp only [text]
    rfl
  have hbare : lines text.toList = p.bare := by decide +kernel
  have hpadded : lines spaced.toList = p.padded := by decide +kernel
  have hindented := (parse_spacing .refuse).1 text indented (by decide +kernel)
  have hspaced := (parse_spacing .refuse).2.2 text spaced p hbare hpadded
  have hspaced' := (parse_spacing .replace).2.2 text spaced p hbare hpadded
  rw [hrefuse] at hindented hspaced
  rw [hreplace] at hspaced'
  exact ⟨hrefuse, hindented, hspaced, hspaced'⟩

end Schema

end Reshape
