import Reshape.Proofs.Schema.Repetition

namespace Reshape.Schema

open Text

/-- The table has exactly the names of the list, each with its position there and the first of the
lines up to `n` that declares it. -/
def Registers (table : Keyed String Declared) (names : List String)
    (declares : String → Nat → Prop) (n : Nat) : Prop :=
  ∀ name i line, table.get? name = some ⟨i, line⟩ ↔
    names[i]? = some name ∧ IsLeast {m | m ≤ n ∧ declares name m} line

/-- After `n` lines the tables of a state register its groups and what the open one declares since
its last header. -/
structure Booked (raws : List (List Char)) (n : Nat) (s : ReaderState) : Prop where
  headers : Registers s.headers (s.groups.map (·.name)) (fun name m ↦ Says raws m (.header name)) n
  current : ∀ c, s.current = some c → ∃ g k, s.groups[c.position]? = some g ∧
    InSection raws g.name k (n + 1) ∧
    Registers c.seen (g.mappings.map (·.modelPath)) (DeclaresPath raws k) n

variable {raws : List (List Char)} {raw : List Char} {n line : Nat} {name path : String}
  {repeats : Repeats} {s s' : ReaderState} {c : Current} {g : FieldGroup} {f : Mapping}
  {table : Keyed String Declared} {names : List String} {declares : String → Nat → Prop}
  {first : Declared}

theorem Indexes.registers (h : Indexes table names) (hlines : FirstLines table declares n) :
    Registers table names declares n := by
  intro name i line
  constructor
  · intro hget
    exact ⟨(h name i).1 ⟨line, hget⟩, (hlines name line).1 ⟨i, hget⟩⟩
  · rintro ⟨hi, hline⟩
    obtain ⟨line', hget⟩ := (h name i).2 hi
    rwa [hline.unique (hlines.isLeast hget)]

theorem Registers.getElem? (h : Registers table names declares n)
    (hget : table.get? name = some first) : names[first.position]? = some name :=
  ((h name first.position first.line).1 hget).1

theorem exists_of_getElem?_map {α : Type} {key : α → String} {items : List α} {i : Nat}
    (h : (items.map key)[i]? = some name) : ∃ x, items[i]? = some x ∧ key x = name := by
  rwa [List.getElem?_map, Option.map_eq_some_iff] at h

namespace ReaderState

theorem Consistent.readLine (h : s.Consistent) (hr : s.readLine repeats raw line = .ok s') :
    s'.Consistent := by
  cases hl : Line.ofText raw with
  | error reason => simp [ReaderState.readLine, hl] at hr
  | ok l =>
    cases l with
    | blank =>
      simp only [ReaderState.readLine, hl, Except.ok.injEq] at hr
      exact hr ▸ h
    | header name =>
      simp only [ReaderState.readLine, hl] at hr
      exact (h.enter hr).consistent
    | mapping f =>
      cases hopen : s.current? with
      | none => simp [ReaderState.readLine, hl, hopen] at hr
      | some open' =>
        simp only [ReaderState.readLine, hl, hopen] at hr
        exact (h.declare hopen hr).consistent

section

variable (repeats : Repeats) (s : ReaderState)

def enter? (name : String) (line : Nat) : Option (Except ParseError ReaderState) :=
  match s.headers.get? name with
  | none => some (s.enter repeats name line)
  | some first =>
    match repeats with
    | .refuse => some (.error (.repeatedGroup name line first.line))
    | .replace => s.groups[first.position]?.map fun g ↦ .ok
      { s with
        groups := s.groups.set first.position { g with mappings := [] }
        current := some ⟨first.position, []⟩ }

def declare? (c : Current) (f : Mapping) (line : Nat) : Option (Except ParseError ReaderState) :=
  s.groups[c.position]?.bind fun g ↦
    let withMappings (mappings : List Mapping) := s.groups.set c.position { g with mappings }
    match c.seen.get? f.modelPath with
    | none => some (.ok
      { s with
        groups := withMappings (g.mappings ++ [f])
        current := some { c with seen := c.seen.insert f.modelPath ⟨g.mappings.length, line⟩ } })
    | some first =>
      match repeats with
      | .refuse => some (.error (.repeatedPath g.name f.modelPath line first.line))
      | .replace => g.mappings[first.position]?.map fun _ ↦
        .ok { s with groups := withMappings (g.mappings.set first.position f) }

def openName? : Option (Option String) :=
  match s.current with
  | none => some none
  | some c => s.groups[c.position]?.map fun g ↦ some g.name

/-- Reads a line as `readLine` does, but comes to nothing where an index leads nowhere. The open
group is looked up for every line. -/
def readLine? (raw : List Char) (line : Nat) : Option (Except ParseError ReaderState) :=
  s.openName?.bind fun group ↦
    match Line.ofText raw with
    | .error reason => some (.error (.badLine group line reason))
    | .ok .blank => some (.ok s)
    | .ok (.header name) => s.enter? repeats name line
    | .ok (.mapping f) =>
      match s.current with
      | none => some (.error (.badLine none line (.noGroup (.ofList (trim raw)))))
      | some c => s.declare? repeats c f line

def readLines? (repeats : Repeats) :
    ReaderState → Nat → List (List Char) → Option (Except ParseError ReaderState)
  | s, _, [] => some (.ok s)
  | s, line, raw :: rest =>
    (s.readLine? repeats raw line).bind fun result ↦
      match result with
      | .ok s => readLines? repeats s (line + 1) rest
      | .error e => some (.error e)

end

namespace Consistent

theorem modify_eq_set {α : Type} {items : List α} {i : Nat} {x : α} (h : items[i]? = some x)
    (f : α → α) : items.modify i f = items.set i (f x) := by
  simp [List.modify_eq_set_getElem?, h]

theorem enter?_eq (h : s.Consistent) (repeats : Repeats) (name : String) (line : Nat) :
    s.enter? repeats name line = some (s.enter repeats name line) := by
  cases hget : s.headers.get? name with
  | none => simp only [enter?, hget]
  | some first =>
    cases repeats with
    | refuse => simp only [enter?, ReaderState.enter, hget]
    | replace =>
      obtain ⟨g, hg, -⟩ := exists_of_getElem?_map (h.headers.getElem? hget)
      simp only [enter?, ReaderState.enter, hget, hg, Option.map_some, modify_eq_set hg]

theorem declare?_eq (h : s.Consistent) (hopen : s.current? = some (c, g)) (repeats : Repeats)
    (f : Mapping) (line : Nat) :
    s.declare? repeats c f line = some (s.declare repeats c g f line) := by
  obtain ⟨-, hg⟩ := current?_eq_some_iff.1 hopen
  cases hget : c.seen.get? f.modelPath with
  | none => simp only [declare?, ReaderState.declare, hget, hg, Option.bind_some, modify_eq_set hg]
  | some first =>
    cases repeats with
    | refuse => simp only [declare?, ReaderState.declare, hget, hg, Option.bind_some]
    | replace =>
      obtain ⟨f', hf', -⟩ := exists_of_getElem?_map ((h.seen hopen).getElem? hget)
      simp only [declare?, ReaderState.declare, hget, hg, Option.bind_some, hf', Option.map_some,
        modify_eq_set hg]

theorem readLine?_eq (h : s.Consistent) (repeats : Repeats) (raw : List Char) (line : Nat) :
    s.readLine? repeats raw line = some (s.readLine repeats raw line) := by
  cases hcurrent : s.current with
  | none =>
    have hopen : s.current? = none := by simp [current?, hcurrent]
    simp only [readLine?, ReaderState.readLine, openName?, hcurrent, hopen, Option.bind_some]
    rcases Line.ofText raw with reason | _ | name | f
    · rfl
    · rfl
    · exact h.enter?_eq repeats name line
    · rfl
  | some c =>
    obtain ⟨g, hg, -⟩ := h.current c hcurrent
    have hopen : s.current? = some (c, g) := current?_eq_some_iff.2 ⟨hcurrent, hg⟩
    simp only [readLine?, ReaderState.readLine, openName?, hcurrent, hopen, hg, Option.map_some,
      Option.bind_some]
    rcases Line.ofText raw with reason | _ | name | f
    · rfl
    · rfl
    · exact h.enter?_eq repeats name line
    · exact h.declare?_eq hopen repeats f line

/-- No index that a reading makes use of leads nowhere. -/
theorem readLines?_eq (h : s.Consistent) (repeats : Repeats) (line : Nat)
    (raws : List (List Char)) :
    s.readLines? repeats line raws = some (s.readLines repeats line raws) := by
  induction raws generalizing s line with
  | nil => rfl
  | cons raw rest ih =>
    rw [readLines?, h.readLine?_eq, Option.bind_some, readLines]
    cases hread : s.readLine repeats raw line with
    | error e => rfl
    | ok next => exact ih (h.readLine hread) (line + 1)

end Consistent

end ReaderState

namespace Dated

theorem readLine (h : Dated raws n s) (hs : s.Consistent) (hraw : raws[n]? = some raw)
    (hr : s.readLine repeats raw (n + 1) = .ok s') : Dated raws (n + 1) s' := by
  cases hl : Line.ofText raw with
  | error reason => simp [ReaderState.readLine, hl] at hr
  | ok l =>
    have hsays : Says raws (n + 1) l := (says_succ_iff hraw).2 (Line.ofText_eq_ok_iff.1 hl)
    cases l with
    | blank =>
      simp only [ReaderState.readLine, hl, Except.ok.injEq] at hr
      exact hr ▸ h.blank hsays
    | header name =>
      simp only [ReaderState.readLine, hl] at hr
      refine h.enter hsays (fun first g hget hg ↦ ?_) hr
      have hname := hs.headers.getElem? hget
      simpa [hg] using hname
    | mapping f =>
      cases hopen : s.current? with
      | none => simp [ReaderState.readLine, hl, hopen] at hr
      | some open' =>
        simp only [ReaderState.readLine, hl, hopen] at hr
        exact h.declare hsays hopen hr

theorem booked (h : Dated raws n s) (hs : s.Consistent) : Booked raws n s where
  headers := hs.headers.registers h.headers
  current := fun c hc ↦ by
    obtain ⟨g, hg, hindexes⟩ := hs.current c hc
    obtain ⟨k, hsection, hlines⟩ := h.current c g (ReaderState.current?_eq_some_iff.2 ⟨hc, hg⟩)
    exact ⟨g, k, hg, hsection, hindexes.registers hlines⟩

end Dated

/-- However far a reading has come, its tables are right. -/
theorem booked_of_readLines (hn : n ≤ raws.length)
    (h : ReaderState.start.readLines repeats 1 (raws.take n) = .ok s) : Booked raws n s := by
  let P (n : Nat) (s : ReaderState) : Prop := s.Consistent ∧ Dated raws n s
  have hstep {m : Nat} {raw : List Char} {s : ReaderState} (hraw : (raws.take n)[m]? = some raw)
      (hP : P m s) :
      ReaderState.Yields (P (m + 1)) (fun _ ↦ True) (s.readLine repeats raw (m + 1)) := by
    have hraw' : raws[m]? = some raw := by
      rw [List.getElem?_take] at hraw
      split at hraw
      · exact hraw
      · cases hraw
    cases hread : s.readLine repeats raw (m + 1) with
    | error e => trivial
    | ok next => exact ⟨hP.1.readLine hread, hP.2.readLine hP.1 hraw' hread⟩
  have hrun := ReaderState.yields_readLines_start hstep
    ⟨ReaderState.consistent_start, dated_start raws⟩
  rw [h, List.length_take_of_le hn] at hrun
  exact hrun.2.booked hrun.1

namespace Booked

theorem position_lt (h : Booked raws n s) (hc : s.current = some c) :
    c.position < s.groups.length := by
  obtain ⟨g, -, hg, -⟩ := h.current c hc
  exact (List.getElem?_eq_some_iff.1 hg).1

theorem exists_group (h : Booked raws n s) (hget : s.headers.get? name = some first) :
    ∃ g, s.groups[first.position]? = some g ∧ g.name = name :=
  exists_of_getElem?_map (h.headers.getElem? hget)

theorem exists_mapping (h : Booked raws n s) (hopen : s.current? = some (c, g))
    (hget : c.seen.get? path = some first) :
    ∃ f, g.mappings[first.position]? = some f ∧ f.modelPath = path := by
  obtain ⟨hc, hg⟩ := ReaderState.current?_eq_some_iff.1 hopen
  obtain ⟨g', k, hg', -, hseen⟩ := h.current c hc
  obtain rfl := Option.some.inj (hg.symm.trans hg')
  exact exists_of_getElem?_map (hseen.getElem? hget)

end Booked

/-- In every state of a reading the tables are exact, and so every index in them leads to what it is
remembered for: the open group, the group of a name, or the mapping of a path. To come to nothing at
an index out of range would make no difference to any reading. -/
theorem readLines_booked (repeats : Repeats) (text : String) :
    let raws := lines text.toList
    (∀ n ≤ raws.length, ∀ s, ReaderState.start.readLines repeats 1 (raws.take n) = .ok s →
      Booked raws n s ∧
      (∀ c, s.current = some c → c.position < s.groups.length) ∧
      (∀ name first, s.headers.get? name = some first →
        ∃ g, s.groups[first.position]? = some g ∧ g.name = name) ∧
      ∀ c g path first, s.current? = some (c, g) → c.seen.get? path = some first →
        ∃ f, g.mappings[first.position]? = some f ∧ f.modelPath = path) ∧
    ReaderState.start.readLines? repeats 1 raws =
      some (ReaderState.start.readLines repeats 1 raws) := by
  intro raws
  refine ⟨fun n hn s hread ↦ ?_, ReaderState.consistent_start.readLines?_eq repeats 1 raws⟩
  have hbooked := booked_of_readLines hn hread
  exact ⟨hbooked, fun c ↦ hbooked.position_lt, fun name first ↦ hbooked.exists_group,
    fun c g path first ↦ hbooked.exists_mapping⟩

/-- A group that is opened again while another one is open, a path that it had before and one that
it declares twice, in front of a line that no schema has. -/
theorem readLines_booked_reopened :
    let text := "a:\n x: t\nb:\n y: u\na:\n z: v\n x: w\n z: t\nnone"
    let raws := lines text.toList
    let s : ReaderState :=
      { groups := [⟨"a", [⟨"z", "t", "z"⟩, ⟨"x", "w", "x"⟩]⟩, ⟨"b", [⟨"y", "u", "y"⟩]⟩]
        headers := [("a", ⟨0, 1⟩), ("b", ⟨1, 3⟩)]
        current := some ⟨0, [("z", ⟨0, 6⟩), ("x", ⟨1, 7⟩)]⟩ }
    8 ≤ raws.length ∧ ReaderState.start.readLines .replace 1 (raws.take 8) = .ok s ∧
      Booked raws 8 s ∧
      ReaderState.start.readLines? .replace 1 raws =
        some (.error (.badLine (some "a") 9 (.noColon "none"))) := by
  intro text raws s
  obtain ⟨hbooked, hindexes⟩ := readLines_booked .replace text
  have hlength : 8 ≤ raws.length := by decide +kernel
  have hread : ReaderState.start.readLines .replace 1 (raws.take 8) = .ok s := by
    dsimp only [text, raws, s]
    rfl
  refine ⟨hlength, hread, (hbooked 8 hlength s hread).1, hindexes.trans ?_⟩
  dsimp only [text]
  rfl

end Reshape.Schema
