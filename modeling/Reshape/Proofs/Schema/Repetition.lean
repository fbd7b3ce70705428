import Mathlib.Order.Bounds.Basic
import Mathlib.Order.Nat
import Reshape.Proofs.Schema.Grammar
import Reshape.Proofs.Schema.Positions
import Reshape.Proofs.Schema.Run

namespace Reshape.Schema

def Says (raws : List (List Char)) (n : Nat) (l : Line) : Prop :=
  ∃ i raw, n = i + 1 ∧ raws[i]? = some raw ∧ Line.Written raw l

/-- Line `n` comes after the header of a group in line `k`, with no other header in between. -/
structure InSection (raws : List (List Char)) (group : String) (k n : Nat) : Prop where
  header : Says raws k (.header group)
  after : k < n
  last : ∀ i name, k < i → i < n → ¬ Says raws i (.header name)

def DeclaresPath (raws : List (List Char)) (k : Nat) (path : String) (n : Nat) : Prop :=
  k < n ∧ ∃ f, Says raws n (.mapping f) ∧ f.modelPath = path

/-- Line `n` declares what line `m` has declared: a group, or a path in the same section. -/
inductive Redeclares (raws : List (List Char)) (m n : Nat) : Prop where
  | header {name : String} (hm : Says raws m (.header name)) (hn : Says raws n (.header name))
      (hlt : m < n)
  | mapping {group : String} {k : Nat} {f : Mapping} (hsection : InSection raws group k n)
      (hm : DeclaresPath raws k f.modelPath m) (hn : Says raws n (.mapping f)) (hlt : m < n)

/-- Line `n` is the first one to declare something again, and line `m` is where that was declared
first. -/
structure FirstRepeat (raws : List (List Char)) (m n : Nat) : Prop where
  line : IsLeast {i | ∃ j, Redeclares raws j i} n
  firstLine : IsLeast {j | Redeclares raws j n} m

def Reports (raws : List (List Char)) : ParseError → Prop
  | .badLine _ _ _ => True
  | .repeatedGroup name line firstLine =>
    FirstRepeat raws firstLine line ∧ Says raws line (.header name)
  | .repeatedPath group path line firstLine => FirstRepeat raws firstLine line ∧
    ∃ k f, InSection raws group k line ∧ Says raws line (.mapping f) ∧ f.modelPath = path

def FirstLines (table : Keyed String Declared) (declares : String → Nat → Prop) (n : Nat) : Prop :=
  ∀ key line, (∃ i, table.get? key = some ⟨i, line⟩) ↔
    IsLeast {m | m ≤ n ∧ declares key m} line

namespace FirstLines

variable {table : Keyed String Declared} {declares : String → Nat → Prop} {n : Nat} {key : String}
  {d : Declared}

theorem isLeast (h : FirstLines table declares n) (hget : table.get? key = some d) :
    IsLeast {m | m ≤ n ∧ declares key m} d.line :=
  (h key d.line).1 ⟨d.position, hget⟩

theorem not_declares (h : FirstLines table declares n) (hget : table.get? key = none) :
    ∀ m ≤ n, ¬ declares key m := by
  classical
  intro m hm hdeclares
  have hleast := Nat.isLeast_find (p := fun m ↦ m ≤ n ∧ declares key m) ⟨m, hm, hdeclares⟩
  obtain ⟨i, hsome⟩ := (h key _).2 hleast
  simp [hget] at hsome

theorem of_get?_eq_none (hnone : ∀ key, table.get? key = none)
    (h : ∀ key, ∀ m ≤ n, ¬ declares key m) : FirstLines table declares n := by
  intro key line
  constructor
  · rintro ⟨i, hget⟩
    simp [hnone] at hget
  · intro hleast
    exact absurd hleast.1.2 (h key line hleast.1.1)

theorem nil (h : ∀ key, ∀ m ≤ n, ¬ declares key m) : FirstLines [] declares n :=
  of_get?_eq_none (fun _ ↦ rfl) h

theorem setOf_le_succ {p : Nat → Prop} (h : ¬ p (n + 1)) :
    {m | m ≤ n + 1 ∧ p m} = {m | m ≤ n ∧ p m} := by
  ext m
  refine and_congr_left fun hm ↦ ⟨fun hle ↦ ?_, Nat.le_succ_of_le⟩
  have hne : m ≠ n + 1 := fun he ↦ h (he ▸ hm)
  omega

theorem skip (h : FirstLines table declares n) (hnot : ∀ key, ¬ declares key (n + 1)) :
    FirstLines table declares (n + 1) := by
  intro key line
  rw [setOf_le_succ (hnot key)]
  exact h key line

theorem insert (h : FirstLines table declares n) (hget : table.get? key = none) (i : Nat)
    (hnew : ∀ other, declares other (n + 1) ↔ other = key) :
    FirstLines (table.insert key ⟨i, n + 1⟩) declares (n + 1) := by
  intro other line
  by_cases hother : other = key
  · subst hother
    have hleast : IsLeast {m | m ≤ n + 1 ∧ declares other m} (n + 1) := by
      refine ⟨⟨le_rfl, (hnew other).2 rfl⟩, fun m hm ↦ ?_⟩
      by_contra hlt
      exact h.not_declares hget m (by omega) hm.2
    rw [Keyed.get?_insert_self]
    constructor
    · rintro ⟨_, he⟩
      obtain ⟨rfl, rfl⟩ := Declared.mk.inj (Option.some.inj he)
      exact hleast
    · intro hline
      exact ⟨i, by rw [hline.unique hleast]⟩
  · rw [Keyed.get?_insert_of_ne hother, setOf_le_succ (mt (hnew other).1 hother)]
    exact h other line

theorem isLeast_succ {p : Nat → Prop} {line : Nat} (h : IsLeast {m | m ≤ n ∧ p m} line) :
    IsLeast {m | m ≤ n + 1 ∧ p m} line := by
  obtain ⟨hline, hleast⟩ := h
  refine ⟨⟨Nat.le_succ_of_le hline.1, hline.2⟩, fun m hm ↦ ?_⟩
  by_cases hle : m ≤ n
  · exact hleast ⟨hle, hm.2⟩
  · have hn : line ≤ n := hline.1
    omega

/-- What is declared again keeps its first line. -/
theorem keep (h : FirstLines table declares n) (hget : table.get? key = some d)
    (hnew : ∀ other, declares other (n + 1) → other = key) :
    FirstLines table declares (n + 1) := by
  intro other line
  by_cases hother : other = key
  · subst hother
    have hleast := h.isLeast hget
    rw [h other line]
    constructor
    · exact isLeast_succ
    · intro hline
      rwa [hline.unique (isLeast_succ hleast)]
  · rw [setOf_le_succ (mt (hnew other) hother)]
    exact h other line

end FirstLines

variable {raws : List (List Char)} {raw : List Char} {l l' : Line} {group group' name : String}
  {f : Mapping} {k k' m n : Nat}

theorem says_succ_iff (hraw : raws[n]? = some raw) : Says raws (n + 1) l ↔ Line.Written raw l := by
  constructor
  · rintro ⟨i, raw', hi, hraw', hl⟩
    obtain rfl : n = i := by omega
    rw [hraw] at hraw'
    exact Option.some.inj hraw' ▸ hl
  · intro hl
    exact ⟨n, raw, rfl, hraw, hl⟩

theorem Says.eq (h : Says raws n l) (h' : Says raws n l') : l = l' := by
  obtain ⟨i, raw, rfl, hraw, hl⟩ := h
  exact Line.rightUnique_written hl ((says_succ_iff hraw).1 h')

theorem Says.pos (h : Says raws n l) : 0 < n := by
  obtain ⟨i, raw, rfl, -, -⟩ := h
  omega

theorem Says.le_length (h : Says raws n l) : n ≤ raws.length := by
  obtain ⟨i, raw, rfl, hraw, -⟩ := h
  exact (List.getElem?_eq_some_iff.1 hraw).1

namespace InSection

theorem unique (h : InSection raws group k n) (h' : InSection raws group' k' n) : k = k' := by
  rcases Nat.lt_trichotomy k k' with hlt | rfl | hlt
  · exact absurd h'.header (h.last k' group' hlt h'.after)
  · rfl
  · exact absurd h.header (h'.last k group hlt h.after)

theorem of_header (h : Says raws n (.header group)) : InSection raws group n (n + 1) :=
  ⟨h, Nat.lt_succ_self n, fun i _ hlt hlt' ↦ by omega⟩

theorem succ (h : InSection raws group k n) (hl : Says raws n l) (hnot : ∀ name, l ≠ .header name) :
    InSection raws group k (n + 1) := by
  refine ⟨h.header, Nat.lt_succ_of_lt h.after, fun i name hlt hlt' hsays ↦ ?_⟩
  by_cases hi : i = n
  · subst hi
    exact hnot name (hl.eq hsays)
  · exact h.last i name hlt (by omega) hsays

end InSection

theorem Redeclares.lt (h : Redeclares raws m n) : m < n := by
  cases h with
  | header hm hn hlt => exact hlt
  | mapping hsection hm hn hlt => exact hlt

theorem Redeclares.le_length (h : Redeclares raws m n) : n ≤ raws.length := by
  cases h with
  | header hm hn hlt => exact hn.le_length
  | mapping hsection hm hn hlt => exact hn.le_length

theorem not_redeclares_blank (hn : Says raws n .blank) : ¬ Redeclares raws m n := by
  intro h
  cases h with
  | header hm hn' hlt => cases hn.eq hn'
  | mapping hsection hm hn' hlt => cases hn.eq hn'

theorem redeclares_header_iff (hn : Says raws (n + 1) (.header name)) :
    Redeclares raws m (n + 1) ↔ m ≤ n ∧ Says raws m (.header name) := by
  constructor
  · intro h
    have hle := Nat.le_of_lt_succ h.lt
    cases h with
    | header hm hn' hlt =>
      cases hn.eq hn'
      exact ⟨hle, hm⟩
    | mapping hsection hm hn' hlt => cases hn.eq hn'
  · rintro ⟨hle, hm⟩
    exact .header hm hn (Nat.lt_succ_of_le hle)

theorem redeclares_mapping_iff (hsection : InSection raws group k (n + 1))
    (hn : Says raws (n + 1) (.mapping f)) :
    Redeclares raws m (n + 1) ↔ m ≤ n ∧ DeclaresPath raws k f.modelPath m := by
  constructor
  · intro h
    have hle := Nat.le_of_lt_succ h.lt
    cases h with
    | header hm hn' hlt => cases hn.eq hn'
    | mapping hsection' hm hn' hlt =>
      cases hn.eq hn'
      exact ⟨hle, hsection.unique hsection' ▸ hm⟩
  · rintro ⟨hle, hm⟩
    exact .mapping hsection hm hn (Nat.lt_succ_of_le hle)

/-- A group that gets other mappings keeps its name. -/
theorem name_of_modify {groups : List FieldGroup} {i : Nat} {g g' : FieldGroup}
    {fs : List Mapping} (hg : groups[i]? = some g)
    (hg' : (groups.modify i fun g ↦ { g with mappings := fs })[i]? = some g') :
    g'.name = g.name := by
  simp only [List.getElem?_modify_eq, hg, Option.map_eq_map, Option.map_some,
    Option.some.injEq] at hg'
  rw [← hg']

/-- The tables of the state give, for everything that the first `n` lines declare, the line that
declares it first. Of the paths, those count that come after the header of the open group. -/
structure Dated (raws : List (List Char)) (n : Nat) (s : ReaderState) : Prop where
  headers : FirstLines s.headers (fun name m ↦ Says raws m (.header name)) n
  current : ∀ c g, s.current? = some (c, g) → ∃ k, InSection raws g.name k (n + 1) ∧
    FirstLines c.seen (DeclaresPath raws k) n

theorem dated_start (raws : List (List Char)) : Dated raws 0 .start where
  headers := .nil fun _ _ hm hsays ↦ by
    have hpos := hsays.pos
    omega
  current := by simp [ReaderState.start, ReaderState.current?]

namespace Dated

variable {s s' : ReaderState} {c : Current} {g : FieldGroup} {repeats : Repeats}

theorem blank (h : Dated raws n s) (hl : Says raws (n + 1) .blank) : Dated raws (n + 1) s where
  headers := h.headers.skip fun name hsays ↦ by cases hl.eq hsays
  current := fun c g hopen ↦ by
    obtain ⟨k, hsection, hseen⟩ := h.current c g hopen
    refine ⟨k, hsection.succ hl (by simp), hseen.skip ?_⟩
    rintro path ⟨-, f, hf, -⟩
    cases hl.eq hf

theorem enter (h : Dated raws n s) (hl : Says raws (n + 1) (.header name))
    (hplace : ∀ first g, s.headers.get? name = some first →
      s.groups[first.position]? = some g → g.name = name)
    (he : s.enter repeats name (n + 1) = .ok s') : Dated raws (n + 1) s' := by
  have hsection : InSection raws name (n + 1) (n + 1 + 1) := .of_header hl
  have hseen : FirstLines [] (DeclaresPath raws (n + 1)) (n + 1) := .nil <| by
    rintro path m hm ⟨hlt, -⟩
    omega
  have hheader : ∀ other, Says raws (n + 1) (.header other) → other = name := by
    intro other hother
    cases hother.eq hl
    rfl
  cases hget : s.headers.get? name with
  | none =>
    simp only [ReaderState.enter, hget, Except.ok.injEq] at he
    subst he
    refine ⟨h.headers.insert hget _ fun other ↦ ⟨hheader other, fun heq ↦ heq ▸ hl⟩, ?_⟩
    intro c g hopen
    have hnew : c = ⟨s.groups.length, []⟩ ∧ g = ⟨name, []⟩ := by
      simpa [ReaderState.current?, eq_comm] using hopen
    obtain ⟨rfl, rfl⟩ := hnew
    exact ⟨n + 1, hsection, hseen⟩
  | some first =>
    cases repeats with
    | refuse => simp [ReaderState.enter, hget] at he
    | replace =>
      simp only [ReaderState.enter, hget, Except.ok.injEq] at he
      subst he
      refine ⟨h.headers.keep hget hheader, fun c g hopen ↦ ?_⟩
      obtain ⟨hc, hg⟩ := ReaderState.current?_eq_some_iff.1 hopen
      obtain rfl := Option.some.inj hc
      have hg' := hg
      simp only [List.getElem?_modify_eq, Option.map_eq_map, Option.map_eq_some_iff] at hg'
      obtain ⟨old, hold, -⟩ := hg'
      rw [name_of_modify hold hg, hplace first old hget hold]
      exact ⟨n + 1, hsection, hseen⟩

theorem declare (h : Dated raws n s) (hl : Says raws (n + 1) (.mapping f))
    (hopen : s.current? = some (c, g)) (hd : s.declare repeats c g f (n + 1) = .ok s') :
    Dated raws (n + 1) s' := by
  obtain ⟨k, hsection, hseen⟩ := h.current c g hopen
  obtain ⟨hc, hg⟩ := ReaderState.current?_eq_some_iff.1 hopen
  have hheaders : ∀ name, ¬ Says raws (n + 1) (.header name) := by
    intro name hsays
    cases hl.eq hsays
  have hpath : ∀ path, DeclaresPath raws k path (n + 1) → path = f.modelPath := by
    rintro path ⟨-, f', hf', rfl⟩
    cases hl.eq hf'
    rfl
  cases hget : c.seen.get? f.modelPath with
  | none =>
    simp only [ReaderState.declare, hget, Except.ok.injEq] at hd
    subst hd
    refine ⟨h.headers.skip hheaders, fun c' g' hopen' ↦ ?_⟩
    obtain ⟨hc', hg'⟩ := ReaderState.current?_eq_some_iff.1 hopen'
    obtain rfl := Option.some.inj hc'
    rw [name_of_modify hg hg']
    have hpaths : ∀ path, DeclaresPath raws k path (n + 1) ↔ path = f.modelPath :=
      fun path ↦ ⟨hpath path, fun heq ↦ ⟨hsection.after, f, hl, heq.symm⟩⟩
    exact ⟨k, hsection.succ hl (by simp), hseen.insert hget _ hpaths⟩
  | some first =>
    cases repeats with
    | refuse => simp [ReaderState.declare, hget] at hd
    | replace =>
      simp only [ReaderState.declare, hget, Except.ok.injEq] at hd
      subst hd
      refine ⟨h.headers.skip hheaders, fun c' g' hopen' ↦ ?_⟩
      obtain ⟨hc', hg'⟩ := ReaderState.current?_eq_some_iff.1 hopen'
      obtain rfl := Option.some.inj (hc.symm.trans hc')
      rw [name_of_modify hg hg']
      exact ⟨k, hsection.succ hl (by simp), hseen.keep hget hpath⟩

end Dated

structure Remembers (raws : List (List Char)) (n : Nat) (s : ReaderState) : Prop where
  headers : FirstLines s.headers (fun name m ↦ Says raws m (.header name)) n
  current : ∀ c g, s.current? = some (c, g) → ∃ k, InSection raws g.name k (n + 1) ∧
    FirstLines c.seen (DeclaresPath raws k) n
  once : ∀ i ≤ n, ∀ m, ¬ Redeclares raws m i

def Outcome (raws : List (List Char)) (n : Nat) : Except ParseError ReaderState → Prop
  | .ok s => Remembers raws n s
  | .error e => Reports raws e

theorem Dated.remembers {s : ReaderState} (h : Dated raws n s)
    (honce : ∀ i ≤ n, ∀ m, ¬ Redeclares raws m i) : Remembers raws n s :=
  ⟨h.headers, h.current, honce⟩

theorem remembers_start (raws : List (List Char)) : Remembers raws 0 .start :=
  (dated_start raws).remembers fun i hi m h ↦ by
    have hlt := h.lt
    omega

namespace Remembers

variable {s s' : ReaderState} {c : Current} {g : FieldGroup} {e : ParseError}
  {table : Keyed String Declared} {declares : String → Nat → Prop} {key : String} {d : Declared}

theorem dated (h : Remembers raws n s) : Dated raws n s := ⟨h.headers, h.current⟩

theorem once_succ (h : Remembers raws n s) (hnot : ∀ m, ¬ Redeclares raws m (n + 1)) :
    ∀ i ≤ n + 1, ∀ m, ¬ Redeclares raws m i := by
  intro i hi
  by_cases he : i = n + 1
  · rw [he]
    exact hnot
  · exact h.once i (by omega)

theorem firstRepeat (h : Remembers raws n s) (hlines : FirstLines table declares n)
    (hiff : ∀ m, Redeclares raws m (n + 1) ↔ m ≤ n ∧ declares key m)
    (hget : table.get? key = some d) : FirstRepeat raws d.line (n + 1) := by
  have hleast := hlines.isLeast hget
  refine ⟨⟨⟨d.line, (hiff d.line).2 hleast.1⟩, ?_⟩, ?_⟩
  · rintro i ⟨m, hm⟩
    by_contra hlt
    exact h.once i (by omega) m hm
  · simpa only [hiff] using hleast

theorem not_redeclares (hlines : FirstLines table declares n)
    (hiff : ∀ m, Redeclares raws m (n + 1) ↔ m ≤ n ∧ declares key m)
    (hget : table.get? key = none) : ∀ m, ¬ Redeclares raws m (n + 1) := by
  intro m hm
  obtain ⟨hle, hdeclares⟩ := (hiff m).1 hm
  exact hlines.not_declares hget m hle hdeclares

theorem blank (h : Remembers raws n s) (hl : Says raws (n + 1) .blank) :
    Remembers raws (n + 1) s :=
  (h.dated.blank hl).remembers (h.once_succ fun _ ↦ not_redeclares_blank hl)

theorem enter (h : Remembers raws n s) (hl : Says raws (n + 1) (.header name)) :
    Outcome raws (n + 1) (s.enter .refuse name (n + 1)) := by
  have hiff := fun m ↦ redeclares_header_iff (m := m) hl
  cases hget : s.headers.get? name with
  | some first =>
    simp only [ReaderState.enter, hget]
    exact ⟨h.firstRepeat h.headers hiff hget, hl⟩
  | none =>
    obtain ⟨s', hs'⟩ : ∃ s', s.enter .refuse name (n + 1) = .ok s' :=
      ReaderState.exists_enter (fun _ ↦ hget) (n + 1)
    rw [hs']
    exact (h.dated.enter hl (by simp [hget]) hs').remembers
      (h.once_succ (not_redeclares h.headers hiff hget))

theorem declare (h : Remembers raws n s) (hl : Says raws (n + 1) (.mapping f))
    (hopen : s.current? = some (c, g)) :
    Outcome raws (n + 1) (s.declare .refuse c g f (n + 1)) := by
  obtain ⟨k, hsection, hseen⟩ := h.current c g hopen
  have hiff := fun m ↦ redeclares_mapping_iff (m := m) hsection hl
  cases hget : c.seen.get? f.modelPath with
  | some first =>
    simp only [ReaderState.declare, hget]
    exact ⟨h.firstRepeat hseen hiff hget, k, f, hsection, hl, rfl⟩
  | none =>
    obtain ⟨s', hs'⟩ : ∃ s', s.declare .refuse c g f (n + 1) = .ok s' :=
      ReaderState.exists_declare (fun _ ↦ hget) s g (n + 1)
    rw [hs']
    exact (h.dated.declare hl hopen hs').remembers
      (h.once_succ (not_redeclares hseen hiff hget))

/-- A line that is read takes the memory one line further, and one that is refused as a repetition
is the first. -/
theorem readLine (h : Remembers raws n s) (hraw : raws[n]? = some raw) :
    Outcome raws (n + 1) (s.readLine .refuse raw (n + 1)) := by
  cases hl : Line.ofText raw with
  | error reason =>
    simp only [ReaderState.readLine, hl]
    trivial
  | ok l =>
    have hsays : Says raws (n + 1) l := (says_succ_iff hraw).2 (Line.ofText_eq_ok_iff.1 hl)
    cases l with
    | blank =>
      simp only [ReaderState.readLine, hl]
      exact h.blank hsays
    | header name =>
      simp only [ReaderState.readLine, hl]
      exact h.enter hsays
    | mapping f =>
      cases hopen : s.current? with
      | none =>
        simp only [ReaderState.readLine, hl, hopen]
        trivial
      | some open' =>
        simp only [ReaderState.readLine, hl, hopen]
        exact h.declare hsays hopen

end Remembers

theorem outcome_readLines (raws : List (List Char)) :
    Outcome raws raws.length (ReaderState.start.readLines .refuse 1 raws) := by
  have hrun : ReaderState.Yields (Remembers raws raws.length) (Reports raws)
      (ReaderState.start.readLines .refuse 1 raws) :=
    ReaderState.yields_readLines_start (fun hraw h ↦ h.readLine hraw) (remembers_start raws)
  exact hrun

end Reshape.Schema
