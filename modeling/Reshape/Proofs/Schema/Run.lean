import Mathlib.Data.List.Basic
import Reshape.Schema.Reader

namespace Reshape.Schema

namespace ReaderState

variable {repeats : Repeats} {s : ReaderState} {raw : List Char} {raws : List (List Char)}
  {line : Nat} {e : ParseError}

/-- The reading comes to a state of one kind or to an error of another. -/
def Yields (P : ReaderState → Prop) (Q : ParseError → Prop) : Except ParseError ReaderState → Prop
  | .ok s => P s
  | .error e => Q e

theorem readLines_append (s : ReaderState) (line : Nat) (raws raws' : List (List Char)) :
    s.readLines repeats line (raws ++ raws') =
      (s.readLines repeats line raws).bind
        fun next ↦ next.readLines repeats (line + raws.length) raws' := by
  induction raws generalizing s line with
  | nil => rfl
  | cons raw rest ih =>
    simp only [List.cons_append, readLines]
    cases s.readLine repeats raw line with
    | error e => rfl
    | ok next =>
      simp only [ih]
      rw [List.length_cons, Nat.add_comm rest.length 1, Nat.add_assoc]

/-- A reading that fails does so at one line, in front of which it succeeds. -/
theorem exists_of_readLines_eq_error (h : s.readLines repeats line raws = .error e) :
    ∃ before raw after next, raws = before ++ raw :: after ∧
      s.readLines repeats line before = .ok next ∧
      next.readLine repeats raw (line + before.length) = .error e := by
  induction raws generalizing s line with
  | nil => cases h
  | cons raw rest ih =>
    cases hread : s.readLine repeats raw line with
    | error e' =>
      simp only [readLines, hread] at h
      exact ⟨[], raw, rest, s, rfl, rfl, hread.trans h⟩
    | ok next =>
      simp only [readLines, hread] at h
      obtain ⟨before, raw', after, last, rfl, hbefore, herror⟩ := ih h
      refine ⟨raw :: before, raw', after, last, rfl, ?_, ?_⟩
      · simpa only [readLines, hread] using hbefore
      · rwa [List.length_cons, Nat.add_comm before.length 1, ← Nat.add_assoc]

/-- An error tells of the line that was read. -/
theorem line_of_readLine_eq_error (h : s.readLine repeats raw line = .error e) : e.line = line := by
  cases hl : Line.ofText raw with
  | error reason =>
    simp only [readLine, hl, Except.error.injEq] at h
    exact h ▸ rfl
  | ok l =>
    cases l with
    | blank => simp [readLine, hl] at h
    | header name =>
      simp only [readLine, hl, enter] at h
      cases hget : s.headers.get? name <;> cases repeats <;> simp [hget] at h
      exact h ▸ rfl
    | mapping f =>
      cases hopen : s.current? with
      | none =>
        simp only [readLine, hl, hopen, Except.error.injEq] at h
        exact h ▸ rfl
      | some open' =>
        simp only [readLine, hl, hopen, declare] at h
        cases hget : open'.1.seen.get? f.modelPath <;> cases repeats <;> simp [hget] at h
        exact h ▸ rfl

/-- What every line keeps holds at the end of a reading, and what every line that fails says holds
of its error. The lines that are left are those after the first `n`. -/
theorem yields_readLines {P : Nat → ReaderState → Prop} {Q : ParseError → Prop}
    (hstep : ∀ {n raw s}, raws[n]? = some raw → P n s →
      Yields (P (n + 1)) Q (s.readLine repeats raw (n + 1)))
    {n : Nat} (h : P n s) {rest : List (List Char)} (hrest : raws.drop n = rest) :
    Yields (P (n + rest.length)) Q (s.readLines repeats (n + 1) rest) := by
  induction rest generalizing s n with
  | nil => exact h
  | cons raw rest ih =>
    have hraw : raws[n]? = some raw := by rw [← List.head?_drop, hrest, List.head?_cons]
    have hnext : raws.drop (n + 1) = rest := by rw [← List.tail_drop, hrest, List.tail_cons]
    have hread := hstep hraw h
    rw [List.length_cons, Nat.add_comm rest.length 1, ← Nat.add_assoc, readLines]
    cases hline : s.readLine repeats raw (n + 1) with
    | error e =>
      rw [hline] at hread
      exact hread
    | ok next =>
      rw [hline] at hread
      exact ih hread hnext

theorem yields_readLines_start {P : Nat → ReaderState → Prop} {Q : ParseError → Prop}
    (hstep : ∀ {n raw s}, raws[n]? = some raw → P n s →
      Yields (P (n + 1)) Q (s.readLine repeats raw (n + 1)))
    (h : P 0 .start) : Yields (P raws.length) Q (start.readLines repeats 1 raws) := by
  have hrun := yields_readLines hstep h List.drop_zero
  rwa [Nat.zero_add] at hrun

end ReaderState

variable {repeats : Repeats} {text : String} {d : Schema} {e : ParseError}

theorem exists_state_of_parse (h : parse repeats text = .ok d) :
    ∃ s, ReaderState.start.readLines repeats 1 (Text.lines text.toList) = .ok s ∧
      d = ⟨s.groups⟩ := by
  cases hread : ReaderState.start.readLines repeats 1 (Text.lines text.toList) with
  | error e => simp [parse, hread, Except.map] at h
  | ok s =>
    rw [parse, hread] at h
    exact ⟨s, rfl, (Except.ok.inj h).symm⟩

theorem readLines_of_parse_eq_error (h : parse repeats text = .error e) :
    ReaderState.start.readLines repeats 1 (Text.lines text.toList) = .error e := by
  cases hread : ReaderState.start.readLines repeats 1 (Text.lines text.toList) with
  | ok s => simp [parse, hread, Except.map] at h
  | error e' =>
    rw [parse, hread] at h
    exact congrArg Except.error (Except.error.inj h)

end Reshape.Schema
