import Reshape.Proofs.Schema.Repetition
import Reshape.Proofs.Text.Lines

namespace Reshape

open Text

namespace Text

/-- The line with the given number, which counts the line feeds in front of it, and the parts of the
text around it. -/
structure LineAt (text : List Char) (n : Nat) (front line back : List Char) : Prop where
  text_eq : text = front ++ line ++ back
  count : front.count '\n' + 1 = n
  front_ended : front = [] ∨ front.getLast? = some '\n'
  lineFeed_not_mem : '\n' ∉ line
  back_ends : back = [] ∨ back.head? = some '\n'

/-- The line as it is read: a carriage return in front of a line feed belongs to the ending. -/
def withoutEnding (line back : List Char) : List Char :=
  if back = [] then line else dropReturn line

theorem exists_lineAt {text : List Char} {i : Nat} (h : i < (lines text).length) :
    ∃ front line back, LineAt text (i + 1) front line back ∧
      lines front = (lines text).take i ∧ (lines text)[i]? = some (withoutEnding line back) := by
  have hfeed : ∀ piece ∈ (splitOn '\n' text).1 :: (splitOn '\n' text).2, '\n' ∉ piece :=
    fun _ ↦ not_mem_of_mem_splitOn
  rw [← joinWith_splitOn '\n' text] at h ⊢
  generalize (splitOn '\n' text).1 = piece, (splitOn '\n' text).2 = pieces at hfeed h ⊢
  induction pieces generalizing piece i with
  | nil =>
    have hpiece := hfeed piece List.mem_cons_self
    rw [joinWith] at h ⊢
    have hne : piece ≠ [] := by
      rintro rfl
      simp at h
    rw [lines_of_not_mem hne hpiece] at h ⊢
    obtain rfl : i = 0 := by simpa using h
    exact ⟨[], piece, [], ⟨by simp, rfl, .inl rfl, hpiece, .inl rfl⟩, rfl, rfl⟩
  | cons next rest ih =>
    obtain ⟨hpiece, hrest⟩ := List.forall_mem_cons.1 hfeed
    rw [joinWith, lines_append hpiece] at h ⊢
    cases i with
    | zero =>
      exact ⟨[], piece, '\n' :: joinWith '\n' next rest,
        ⟨by simp, rfl, .inl rfl, hpiece, .inr rfl⟩, rfl, rfl⟩
    | succ i =>
      obtain ⟨front, line, back, hline, hfront, hget⟩ :=
        ih next hrest (Nat.lt_of_succ_lt_succ h)
      obtain ⟨htext, hcount, hended, hone, hends⟩ := hline
      refine ⟨piece ++ '\n' :: front, line, back, ⟨?_, ?_, .inr ?_, hone, hends⟩, ?_, hget⟩
      · rw [htext]
        simp
      · rw [List.count_append, List.count_eq_zero_of_not_mem hpiece, List.count_cons_self]
        omega
      · rcases hended with rfl | hlast
        · simp
        · simp [List.getLast?_append, List.getLast?_cons, hlast]
      · rw [lines_append hpiece, hfront, List.take_succ_cons]

end Text

namespace Schema

variable {repeats : Repeats} {raws before : List (List Char)} {raw : List Char} {n : Nat}
  {name : String} {l : Line} {group : Option String} {e : ParseError}

def HeaderBefore (raws : List (List Char)) (n : Nat) : Option String → Prop
  | some group => ∃ k, InSection raws group k n
  | none => ∀ k < n, ∀ name, ¬ Says raws k (.header name)

/-- What an error says of the group: it is the open one, or the one that is declared again. -/
def Blames (raws : List (List Char)) : ParseError → Prop
  | .badLine group line _ => HeaderBefore raws line group
  | .repeatedPath group _ line _ => HeaderBefore raws line (some group)
  | .repeatedGroup group line _ => Says raws line (.header group)

namespace HeaderBefore

theorem first (raws : List (List Char)) : HeaderBefore raws 1 none := by
  intro k hk name hsays
  have hpos := hsays.pos
  omega

theorem of_header (h : Says raws n (.header name)) : HeaderBefore raws (n + 1) (some name) :=
  ⟨n, .of_header h⟩

theorem succ (h : HeaderBefore raws n group) (hl : Says raws n l)
    (hnot : ∀ name, l ≠ .header name) : HeaderBefore raws (n + 1) group := by
  cases group with
  | some group =>
    obtain ⟨k, hk⟩ := h
    exact ⟨k, hk.succ hl hnot⟩
  | none =>
    intro k hk name hsays
    rcases Nat.lt_succ_iff_lt_or_eq.1 hk with hlt | rfl
    · exact h k hlt name hsays
    · exact hnot name (hl.eq hsays)

end HeaderBefore

structure Follows (raws : List (List Char)) (n : Nat) (s : ReaderState) : Prop where
  consistent : s.Consistent
  group : HeaderBefore raws (n + 1) (s.open?.map (·.name))

namespace Follows

variable {s : ReaderState} {c : Current} {g : FieldGroup} {f : Mapping}

theorem start (raws : List (List Char)) : Follows raws 0 .start :=
  ⟨ReaderState.consistent_start, .first raws⟩

theorem enter (h : Follows raws n s) (hl : Says raws (n + 1) (.header name)) :
    ReaderState.Yields (Follows raws (n + 1)) (Blames raws)
      (s.enter repeats name (n + 1)) := by
  cases hread : s.enter repeats name (n + 1) with
  | ok next =>
    have hw := h.consistent.enter hread
    refine ⟨hw.consistent, ?_⟩
    rw [hw.opened]
    exact .of_header hl
  | error e =>
    cases hget : s.headers.get? name with
    | none => simp [ReaderState.enter, hget] at hread
    | some first =>
      cases repeats with
      | replace => simp [ReaderState.enter, hget] at hread
      | refuse =>
        simp only [ReaderState.enter, hget, Except.error.injEq] at hread
        exact hread ▸ hl

theorem declare (h : Follows raws n s) (hl : Says raws (n + 1) (.mapping f))
    (hopen : s.current? = some (c, g)) :
    ReaderState.Yields (Follows raws (n + 1)) (Blames raws)
      (s.declare repeats c g f (n + 1)) := by
  have hgroup : HeaderBefore raws (n + 1) (some g.name) := by
    simpa [ReaderState.open?, hopen] using h.group
  cases hread : s.declare repeats c g f (n + 1) with
  | ok next =>
    have hw := h.consistent.declare hopen hread
    refine ⟨hw.consistent, ?_⟩
    rw [hw.opened]
    exact hgroup.succ hl (by simp)
  | error e =>
    cases hget : c.seen.get? f.modelPath with
    | none => simp [ReaderState.declare, hget] at hread
    | some first =>
      cases repeats with
      | replace => simp [ReaderState.declare, hget] at hread
      | refuse =>
        simp only [ReaderState.declare, hget, Except.error.injEq] at hread
        exact hread ▸ hgroup

theorem readLine (h : Follows raws n s) (hraw : raws[n]? = some raw) :
    ReaderState.Yields (Follows raws (n + 1)) (Blames raws)
      (s.readLine repeats raw (n + 1)) := by
  cases hl : Line.ofText raw with
  | error reason =>
    have hgroup : s.current?.map (·.2.name) = s.open?.map (·.name) := by
      simp [ReaderState.open?, Function.comp_def]
    simp only [ReaderState.readLine, hl, hgroup]
    exact h.group
  | ok l =>
    have hsays : Says raws (n + 1) l := (says_succ_iff hraw).2 (Line.ofText_eq_ok_iff.1 hl)
    cases l with
    | blank =>
      simp only [ReaderState.readLine, hl]
      exact ⟨h.consistent, h.group.succ hsays (by simp)⟩
    | header name =>
      simp only [ReaderState.readLine, hl]
      exact h.enter hsays
    | mapping f =>
      cases hopen : s.current? with
      | none =>
        have hnone : s.open?.map (·.name) = none := by simp [ReaderState.open?, hopen]
        simp only [ReaderState.readLine, hl, hopen]
        exact hnone ▸ h.group
      | some open' =>
        simp only [ReaderState.readLine, hl, hopen]
        exact h.declare hsays hopen

end Follows

theorem follows_readLines (raws : List (List Char)) :
    ReaderState.Yields (Follows raws raws.length) (Blames raws)
      (ReaderState.start.readLines repeats 1 raws) :=
  ReaderState.yields_readLines_start (fun hraw h ↦ h.readLine hraw) (.start raws)

variable {text text' : String}

theorem blames_of_parse (h : parse repeats text = .error e) : Blames (lines text.toList) e := by
  have hrun : ReaderState.Yields _ (Blames (lines text.toList))
      (ReaderState.start.readLines repeats 1 (lines text.toList)) :=
    follows_readLines (lines text.toList)
  rw [readLines_of_parse_eq_error h] at hrun
  exact hrun

/-- A reading that fails has read every line in front of the one that it tells of, and nothing after
that line matters. -/
theorem exists_lines_of_parse_eq_error (h : parse repeats text = .error e) :
    ∃ before raw after, lines text.toList = before ++ raw :: after ∧
      e.line = before.length + 1 ∧
      (∀ text' : String, lines text'.toList = before → ∃ d, parse repeats text' = .ok d) ∧
      ∀ text' : String, before ++ [raw] <+: lines text'.toList →
        parse repeats text' = .error e := by
  obtain ⟨before, raw, after, next, hlines, hbefore, herror⟩ :=
    ReaderState.exists_of_readLines_eq_error (readLines_of_parse_eq_error h)
  refine ⟨before, raw, after, hlines, ?_, fun text' htext ↦ ?_, fun text' hshare ↦ ?_⟩
  · rw [ReaderState.line_of_readLine_eq_error herror, Nat.add_comm]
  · exact ⟨⟨next.groups⟩, by rw [parse, htext, hbefore]; rfl⟩
  · obtain ⟨rest, hrest⟩ := hshare
    rw [parse, ← hrest, List.append_assoc, ReaderState.readLines_append, hbefore]
    simp only [Except.bind, List.singleton_append, ReaderState.readLines, herror]
    rfl

/-- The error of a reading is the first one in the text: with the lines in front of it alone the
reading succeeds, and with whatever comes after it, it fails in the same way. Lines are counted from
one, blank ones as well, by the line feeds in front of them, and the group that an error tells of is
the one whose header came last, or that is declared again. -/
theorem parse_error_first (h : parse repeats text = .error e) :
    let raws := lines text.toList
    (∃ front line back, LineAt text.toList e.line front line back ∧
      lines front = raws.take (e.line - 1) ∧
      raws[e.line - 1]? = some (withoutEnding line back)) ∧
    (∀ text' : String, lines text'.toList = raws.take (e.line - 1) →
      ∃ d, parse repeats text' = .ok d) ∧
    (∀ text' : String, raws.take e.line <+: lines text'.toList → parse repeats text' = .error e) ∧
    Blames raws e := by
  intro raws
  obtain ⟨before, raw, after, hlines, hline, hread, hfail⟩ := exists_lines_of_parse_eq_error h
  have hindex : e.line - 1 = before.length := by omega
  have hbefore : raws.take (e.line - 1) = before := by simp [raws, hlines, hindex]
  have hthrough : raws.take e.line = before ++ [raw] := by
    simp [raws, hlines, hline, List.take_append]
  have hlength : e.line - 1 < raws.length := by simp [raws, hlines, hindex]
  refine ⟨?_, hbefore ▸ hread, hthrough ▸ hfail, blames_of_parse h⟩
  have hcut := exists_lineAt hlength
  rwa [hindex, ← hline, ← hindex] at hcut

/-- A path that is repeated after blank lines and before a line that no schema has. -/
theorem parse_error_first_repeated :
    let text := "a:\r\n\n x: t\nb:\r\n x: t\n \r\n x: u\ny\n"
    let e := ParseError.repeatedPath "b" "x" 7 5
    parse .refuse text = .error e ∧
      (∃ d, parse .refuse "a:\n\n x: t\nb:\n x: t\n " = .ok d) ∧
      parse .refuse "a:\n\n x: t\nb:\n x: t\n \n x: u\na:" = .error e ∧
      ∃ k, InSection (lines text.toList) "b" k 7 := by
  intro text e
  have herror : parse .refuse text = .error e := by
    dsimp only [text, e]
    rfl
  obtain ⟨-, hread, hfail, hblames⟩ := parse_error_first herror
  exact ⟨herror, hread _ (by decide +kernel), hfail _ (by decide +kernel), hblames⟩

end Schema

end Reshape
