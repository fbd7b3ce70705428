import Reshape.Proofs.Schema.Reading
import Reshape.Proofs.Schema.Repetition

namespace Reshape

def ParseError.isRepeat : ParseError → Bool
  | .badLine _ _ _ => false
  | .repeatedPath _ _ _ _ => true
  | .repeatedGroup _ _ _ => true

namespace Schema

variable {α β : Type}

/-- The reading succeeds, or stops after line `n` at a line that does not belong to a schema. -/
def ReadsPast (n : Nat) : Except ParseError α → Prop
  | .ok _ => True
  | .error (.badLine _ line _) => n < line
  | .error _ => False

/-- The strict reading is the lenient one, or stops at a repetition that the lenient one reads
past. -/
def Refines (strict lenient : Except ParseError α) : Prop :=
  strict = lenient ∨ ∃ e, strict = .error e ∧ e.isRepeat ∧ ReadsPast e.line lenient

theorem ReadsPast.map {n : Nat} {result : Except ParseError α} (h : ReadsPast n result)
    (f : α → β) : ReadsPast n (result.map f) := by
  cases result with
  | ok x => trivial
  | error e => cases e <;> exact h

theorem Refines.map {strict lenient : Except ParseError α} (h : Refines strict lenient)
    (f : α → β) : Refines (strict.map f) (lenient.map f) := by
  rcases h with rfl | ⟨e, rfl, hrepeat, hpast⟩
  · exact .inl rfl
  · exact .inr ⟨e, rfl, hrepeat, hpast.map f⟩

theorem ReadsPast.not_isRepeat {n : Nat} {e : ParseError}
    (h : ReadsPast n (.error e : Except ParseError α)) : ¬ e.isRepeat := by
  cases e with
  | badLine group line reason => exact Bool.false_ne_true
  | repeatedPath group path line firstLine => exact h.elim
  | repeatedGroup group line firstLine => exact h.elim

namespace Refines

variable {strict lenient : Except ParseError α} {e : ParseError}

theorem eq_ok (h : Refines strict lenient) {x : α} (hx : strict = .ok x) : lenient = .ok x := by
  rcases h with rfl | ⟨e, rfl, -, -⟩
  · exact hx
  · cases hx

theorem eq_error (h : Refines strict lenient) (he : strict = .error e) (hnot : ¬ e.isRepeat) :
    lenient = .error e := by
  rcases h with rfl | ⟨e', rfl, hrepeat, -⟩
  · exact he
  · obtain rfl := Except.error.inj he
    exact absurd hrepeat hnot

theorem readsPast (h : Refines strict lenient) {n : Nat} (hlenient : ReadsPast n lenient)
    (he : strict = .error e) (hrepeat : e.isRepeat) : ReadsPast e.line lenient := by
  rcases h with rfl | ⟨e', rfl, -, hpast⟩
  · rw [he] at hlenient
    exact absurd hrepeat hlenient.not_isRepeat
  · obtain rfl := Except.error.inj he
    exact hpast

end Refines

namespace ReaderState

variable {s : ReaderState} {raw : List Char} {line : Nat} {e : ParseError}

def Stops (line : Nat) (strict lenient : Except ParseError ReaderState) : Prop :=
  ∃ e, strict = .error e ∧ e.isRepeat ∧ e.line = line ∧ ∃ s, lenient = .ok s

theorem enter_eq_or_stops (s : ReaderState) (name : String) (line : Nat) :
    s.enter .refuse name line = s.enter .replace name line ∨
      Stops line (s.enter .refuse name line) (s.enter .replace name line) := by
  cases hget : s.headers.get? name with
  | none =>
    left
    simp only [enter, hget]
  | some first =>
    right
    simp only [enter, hget]
    exact ⟨_, rfl, rfl, rfl, _, rfl⟩

theorem declare_eq_or_stops (s : ReaderState) (c : Current) (g : FieldGroup) (f : Mapping)
    (line : Nat) : s.declare .refuse c g f line = s.declare .replace c g f line ∨
      Stops line (s.declare .refuse c g f line) (s.declare .replace c g f line) := by
  cases hget : c.seen.get? f.modelPath with
  | none =>
    left
    simp only [declare, hget]
  | some first =>
    right
    simp only [declare, hget]
    exact ⟨_, rfl, rfl, rfl, _, rfl⟩

theorem readLine_eq_or_stops (s : ReaderState) (raw : List Char) (line : Nat) :
    s.readLine .refuse raw line = s.readLine .replace raw line ∨
      Stops line (s.readLine .refuse raw line) (s.readLine .replace raw line) := by
  cases hl : Line.ofText raw with
  | error reason =>
    left
    simp only [readLine, hl]
  | ok l =>
    cases l with
    | blank =>
      left
      simp only [readLine, hl]
    | header name =>
      simp only [readLine, hl]
      exact s.enter_eq_or_stops name line
    | mapping f =>
      cases hopen : s.current? with
      | none =>
        left
        simp only [readLine, hl, hopen]
      | some open' =>
        simp only [readLine, hl, hopen]
        exact s.declare_eq_or_stops open'.1 open'.2 f line

theorem readLine_replace_eq_error (h : s.readLine .replace raw line = .error e) :
    ∃ group reason, e = .badLine group line reason := by
  cases hl : Line.ofText raw with
  | error reason =>
    simp only [readLine, hl, Except.error.injEq] at h
    exact ⟨_, reason, h.symm⟩
  | ok l =>
    cases l with
    | blank => simp [readLine, hl] at h
    | header name =>
      have hread : ∃ next, s.enter .replace name line = .ok next := by
        apply exists_enter
        simp
      obtain ⟨next, hnext⟩ := hread
      simp [readLine, hl, hnext] at h
    | mapping f =>
      cases hopen : s.current? with
      | none =>
        simp only [readLine, hl, hopen, Except.error.injEq] at h
        exact ⟨none, _, h.symm⟩
      | some open' =>
        have hread : ∃ next, s.declare .replace open'.1 open'.2 f line = .ok next := by
          apply exists_declare
          simp
        obtain ⟨next, hnext⟩ := hread
        simp [readLine, hl, hopen, hnext] at h

theorem readsPast_readLines {n : Nat} (hn : n < line) (s : ReaderState)
    (raws : List (List Char)) : ReadsPast n (s.readLines .replace line raws) := by
  induction raws generalizing s line with
  | nil => trivial
  | cons raw raws ih =>
    cases hread : s.readLine .replace raw line with
    | error e =>
      obtain ⟨group, reason, rfl⟩ := readLine_replace_eq_error hread
      simp only [readLines, hread]
      exact hn
    | ok next =>
      simp only [readLines, hread]
      exact ih (Nat.lt_succ_of_lt hn) next

/-- Both readings take the same steps up to the first repetition. -/
theorem refines_readLines (s : ReaderState) (line : Nat) (raws : List (List Char)) :
    Refines (s.readLines .refuse line raws) (s.readLines .replace line raws) := by
  induction raws generalizing s line with
  | nil => exact .inl rfl
  | cons raw raws ih =>
    rcases s.readLine_eq_or_stops raw line with heq | ⟨e, hstop, hrepeat, rfl, next, hnext⟩
    · cases hread : s.readLine .replace raw line with
      | error e => exact .inl (by simp only [readLines, heq, hread])
      | ok next =>
        simp only [readLines, heq, hread]
        exact ih next (line + 1)
    · -- From here on only the lenient reading goes on, and its errors stand in later lines.
      simp only [readLines, hstop, hnext]
      exact .inr ⟨e, rfl, hrepeat, readsPast_readLines (Nat.lt_succ_self _) next raws⟩

end ReaderState

variable {text : String} {d : Schema} {e : ParseError}

theorem refines_parse (text : String) : Refines (parse .refuse text) (parse .replace text) :=
  (ReaderState.start.refines_readLines 1 (Text.lines text.toList)).map _

theorem readsPast_of_parse (h : parse .refuse text = .error e) (hrepeat : e.isRepeat) :
    ReadsPast e.line (parse .replace text) := by
  have hlenient : ReadsPast 0 (parse .replace text) :=
    (ReaderState.readsPast_readLines Nat.zero_lt_one .start _).map _
  exact (refines_parse text).readsPast hlenient h hrepeat

theorem reports_of_parse (h : parse .refuse text = .error e) :
    Reports (Text.lines text.toList) e := by
  have hrun := outcome_readLines (Text.lines text.toList)
  rw [readLines_of_parse_eq_error h] at hrun
  exact hrun

theorem not_redeclares_of_parse (h : parse .refuse text = .ok d) (m n : Nat) :
    ¬ Redeclares (Text.lines text.toList) m n := by
  intro hagain
  obtain ⟨s, hread, -⟩ := exists_state_of_parse h
  have hrun := outcome_readLines (Text.lines text.toList)
  rw [hread] at hrun
  exact hrun.once n hagain.le_length m hagain

theorem Reports.exists_redeclares {raws : List (List Char)} (h : Reports raws e)
    (hrepeat : e.isRepeat) : ∃ m n, Redeclares raws m n := by
  cases e with
  | badLine group line reason => cases hrepeat
  | repeatedPath group path line firstLine => exact ⟨firstLine, line, h.1.firstLine.1⟩
  | repeatedGroup group line firstLine => exact ⟨firstLine, line, h.1.firstLine.1⟩

theorem exists_parse_refuse_iff (text : String) : (∃ d, parse .refuse text = .ok d) ↔
    (∃ d, parse .replace text = .ok d) ∧ ∀ m n, ¬ Redeclares (Text.lines text.toList) m n := by
  constructor
  · rintro ⟨d, h⟩
    exact ⟨⟨d, (refines_parse text).eq_ok h⟩, not_redeclares_of_parse h⟩
  · rintro ⟨⟨d, h⟩, hnot⟩
    rcases refines_parse text with heq | ⟨e, hstop, hrepeat, -⟩
    · exact ⟨d, heq.trans h⟩
    · obtain ⟨m, n, hagain⟩ := (reports_of_parse hstop).exists_redeclares hrepeat
      exact absurd hagain (hnot m n)

/-- Refusing repetitions refines replacing: what it reads is read the same, a line that belongs to
no schema is the same error, and a repetition is the first of the text and stands in front of
anything else that is wrong. -/
theorem parse_refuse_refines_replace (text : String) :
    let raws := Text.lines text.toList
    (∀ d, parse .refuse text = .ok d → parse .replace text = .ok d) ∧
    ((∃ d, parse .refuse text = .ok d) ↔
      (∃ d, parse .replace text = .ok d) ∧ ∀ m n, ¬ Redeclares raws m n) ∧
    (∀ group line reason, parse .refuse text = .error (.badLine group line reason) →
      parse .replace text = .error (.badLine group line reason)) ∧
    (∀ name line firstLine, parse .refuse text = .error (.repeatedGroup name line firstLine) →
      FirstRepeat raws firstLine line ∧ firstLine < line ∧ Says raws line (.header name) ∧
      ReadsPast line (parse .replace text)) ∧
    (∀ group path line firstLine,
      parse .refuse text = .error (.repeatedPath group path line firstLine) →
      FirstRepeat raws firstLine line ∧ firstLine < line ∧
      (∃ k f, InSection raws group k line ∧ Says raws line (.mapping f) ∧ f.modelPath = path) ∧
      ReadsPast line (parse .replace text)) := by
  intro raws
  refine ⟨fun d ↦ (refines_parse text).eq_ok, exists_parse_refuse_iff text, ?_, ?_, ?_⟩
  · intro group line reason h
    exact (refines_parse text).eq_error h Bool.false_ne_true
  · intro name line firstLine h
    obtain ⟨hfirst, hsays⟩ := reports_of_parse h
    exact ⟨hfirst, hfirst.firstLine.1.lt, hsays, readsPast_of_parse h rfl⟩
  · intro group path line firstLine h
    obtain ⟨hfirst, hpath⟩ := reports_of_parse h
    exact ⟨hfirst, hfirst.firstLine.1.lt, hpath, readsPast_of_parse h rfl⟩

theorem parse_refuse_refines_replace_repeated :
    let once := "a:\n x: t\nb:\n x: t"
    let malformed := "a:\n x: t\n x\na:"
    let header := "a:\n x: t\nb:\na:\nb:\n x"
    let path := "a:\nb:\n x: t\n\n x: u <=> y\na:"
    parse .replace once = .ok ⟨[⟨"a", [⟨"x", "t", "x"⟩]⟩, ⟨"b", [⟨"x", "t", "x"⟩]⟩]⟩ ∧
    parse .replace malformed = .error (.badLine (some "a") 3 (.noColon "x")) ∧
    FirstRepeat (Text.lines header.toList) 1 4 ∧ ReadsPast 4 (parse .replace header) ∧
    FirstRepeat (Text.lines path.toList) 3 5 ∧ ReadsPast 5 (parse .replace path) := by
  intro once malformed header path
  have honce : parse .refuse once =
      .ok ⟨[⟨"a", [⟨"x", "t", "x"⟩]⟩, ⟨"b", [⟨"x", "t", "x"⟩]⟩]⟩ := by
    dsimp only [once]
    rfl
  have hmalformed : parse .refuse malformed = .error (.badLine (some "a") 3 (.noColon "x")) := by
    dsimp only [malformed]
    rfl
  have hheader : parse .refuse header = .error (.repeatedGroup "a" 4 1) := by
    dsimp only [header]
    rfl
  have hpath : parse .refuse path = .error (.repeatedPath "b" "x" 5 3) := by
    dsimp only [path]
    rfl
  obtain ⟨hfirst, -, -, hpast⟩ := (parse_refuse_refines_replace header).2.2.2.1 _ _ _ hheader
  obtain ⟨hfirst', -, -, hpast'⟩ := (parse_refuse_refines_replace path).2.2.2.2 _ _ _ _ hpath
  exact ⟨(parse_refuse_refines_replace once).1 _ honce,
    (parse_refuse_refines_replace malformed).2.2.1 _ _ _ hmalformed, hfirst, hpast, hfirst', hpast'⟩

end Schema

end Reshape
