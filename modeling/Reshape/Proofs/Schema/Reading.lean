import Reshape.Proofs.Schema.Grammar
import Reshape.Proofs.Schema.Positions
import Reshape.Proofs.Schema.Run
import Reshape.Proofs.Schema.Sections

namespace Reshape.Schema

namespace ReaderState

variable {s s' : ReaderState} {c : Current} {g : FieldGroup} {f : Mapping} {ls ls' : List Line}
  {l : Line} {raw : List Char} {raws : List (List Char)} {line : Nat} {repeats : Repeats}

structure Tracks (ls : List Line) (s : ReaderState) : Prop where
  consistent : s.Consistent
  headed : Headed ls
  groups : s.groups = (ofLines ls).groups
  opened : s.open? = (sections ls).getLast?.map (·.condensed)

theorem tracks_start : Tracks [] start :=
  ⟨consistent_start, rfl, rfl, rfl⟩

namespace Tracks

theorem blank (h : Tracks ls s) : Tracks (ls ++ [.blank]) s where
  consistent := h.consistent
  headed := h.headed.concat (by simp)
  groups := by rw [h.groups, groups_ofLines, groups_ofLines, sections_concat_blank]
  opened := by rw [h.opened, sections_concat_blank]

theorem enter (h : Tracks ls s) {name : String} (he : s.enter repeats name line = .ok s') :
    Tracks (ls ++ [.header name]) s' := by
  have hw := h.consistent.enter he
  refine ⟨hw.consistent, h.headed.concat (by simp), ?_, ?_⟩
  · rw [hw.groups, h.groups, ofLines_concat_header]
  · rw [hw.opened, sections_concat_header, List.getLast?_concat]
    rfl

theorem exists_section (h : Tracks ls s) (hopen : s.current? = some (c, g)) :
    ∃ gs g', sections ls = gs ++ [g'] ∧ g = g'.condensed := by
  have hopened := h.opened
  rw [open?, hopen, Option.map_some] at hopened
  obtain ⟨g', hlast, hg⟩ := Option.map_eq_some_iff.1 hopened.symm
  obtain ⟨gs, hgs⟩ := List.getLast?_eq_some_iff.1 hlast
  exact ⟨gs, g', hgs, hg.symm⟩

theorem declare (h : Tracks ls s) (hopen : s.current? = some (c, g))
    (hd : s.declare repeats c g f line = .ok s') : Tracks (ls ++ [.mapping f]) s' := by
  have hw := h.consistent.declare hopen hd
  obtain ⟨gs, g', hgs, rfl⟩ := h.exists_section hopen
  refine ⟨hw.consistent, ?_, ?_, ?_⟩
  · rw [h.headed.concat_mapping_iff, hgs]
    simp
  · rw [hw.groups, h.groups, ofLines_concat_mapping hgs]
    rfl
  · rw [hw.opened, sections_concat_mapping hgs, List.getLast?_concat, Option.map_some,
      condensed_concat]
    rfl

/-- A line that is read is a line as it is written, and the state follows it. -/
theorem readLine (h : Tracks ls s) (hr : s.readLine repeats raw line = .ok s') :
    ∃ l, Line.Written raw l ∧ Tracks (ls ++ [l]) s' := by
  cases hl : Line.ofText raw with
  | error reason => simp [ReaderState.readLine, hl] at hr
  | ok l =>
    refine ⟨l, Line.ofText_eq_ok_iff.1 hl, ?_⟩
    cases l with
    | blank =>
      simp only [ReaderState.readLine, hl, Except.ok.injEq] at hr
      exact hr ▸ h.blank
    | header name =>
      simp only [ReaderState.readLine, hl] at hr
      exact h.enter hr
    | mapping f =>
      cases hopen : s.current? with
      | none => simp [ReaderState.readLine, hl, hopen] at hr
      | some open' =>
        simp only [ReaderState.readLine, hl, hopen] at hr
        exact h.declare hopen hr

theorem get?_headers_eq_none (h : Tracks ls s) {name : String}
    (honce : Unrepeated (ls ++ [.header name])) : s.headers.get? name = none := by
  have hnames := honce.names
  rw [sections_concat_header, List.map_append, List.map_singleton, ← List.concat_eq_append,
    List.nodup_concat] at hnames
  have hgroups : s.groups.map (·.name) = (latest (·.name) (sections ls)).map (·.name) := by
    rw [h.groups, groups_ofLines, List.map_map]
    rfl
  rw [h.consistent.headers.get?_eq_none_iff, hgroups, mem_map_key_latest]
  exact hnames.1

theorem get?_seen_eq_none (h : Tracks ls s) (hopen : s.current? = some (c, g))
    (honce : Unrepeated (ls ++ [.mapping f])) : c.seen.get? f.modelPath = none := by
  obtain ⟨gs, g', hgs, rfl⟩ := h.exists_section hopen
  have hpaths := honce.paths ⟨g'.name, g'.mappings ++ [f]⟩ (by simp [sections_concat_mapping hgs])
  rw [List.map_append, List.map_singleton, ← List.concat_eq_append, List.nodup_concat] at hpaths
  rw [(h.consistent.seen hopen).get?_eq_none_iff, FieldGroup.condensed, mem_map_key_latest]
  exact hpaths.1

theorem exists_readLine (h : Tracks ls s) (hl : Line.Written raw l) (hhead : Headed (ls ++ [l]))
    (honce : repeats = .refuse → Unrepeated (ls ++ [l])) (line : Nat) :
    ∃ s', s.readLine repeats raw line = .ok s' := by
  rw [← Line.ofText_eq_ok_iff] at hl
  cases l with
  | blank => exact ⟨s, by simp [ReaderState.readLine, hl]⟩
  | header name =>
    simp only [ReaderState.readLine, hl]
    exact exists_enter (fun hr ↦ h.get?_headers_eq_none (honce hr)) line
  | mapping f =>
    have hne := (h.headed.concat_mapping_iff f).1 hhead
    have hopened : s.open? ≠ none := by
      rwa [h.opened, ne_eq, Option.map_eq_none_iff, List.getLast?_eq_none_iff]
    cases hopen : s.current? with
    | none => simp [open?, hopen] at hopened
    | some open' =>
      simp only [ReaderState.readLine, hl, hopen]
      exact exists_declare (fun hr ↦ h.get?_seen_eq_none hopen (honce hr)) s open'.2 line

theorem readLines (h : Tracks ls s) (hr : s.readLines repeats line raws = .ok s') :
    ∃ ls', List.Forall₂ Line.Written raws ls' ∧ Tracks (ls ++ ls') s' := by
  induction raws generalizing s ls line with
  | nil =>
    obtain rfl := Except.ok.inj hr
    exact ⟨[], .nil, by simpa using h⟩
  | cons raw raws ih =>
    cases hstep : s.readLine repeats raw line with
    | error e => simp [ReaderState.readLines, hstep] at hr
    | ok next =>
      simp only [ReaderState.readLines, hstep] at hr
      obtain ⟨l, hl, hnext⟩ := h.readLine hstep
      obtain ⟨ls', hls', hs'⟩ := ih hnext hr
      exact ⟨l :: ls', .cons hl hls', by simpa using hs'⟩

theorem exists_readLines (h : Tracks ls s) (hls : List.Forall₂ Line.Written raws ls')
    (hhead : Headed (ls ++ ls')) (honce : repeats = .refuse → Unrepeated (ls ++ ls'))
    (line : Nat) : ∃ s', s.readLines repeats line raws = .ok s' := by
  induction hls generalizing s ls line with
  | nil => exact ⟨s, rfl⟩
  | @cons raw l raws ls' hl hls' ih =>
    rw [List.append_cons] at hhead honce
    obtain ⟨next, hstep⟩ :=
      h.exists_readLine hl hhead.of_append (fun hr ↦ (honce hr).of_append) line
    obtain ⟨l', hl', hnext⟩ := h.readLine hstep
    obtain rfl := Line.rightUnique_written hl hl'
    obtain ⟨s', hrest⟩ := ih hnext hhead honce (line + 1)
    exact ⟨s', by simpa [ReaderState.readLines, hstep] using hrest⟩

end Tracks

end ReaderState

variable {repeats : Repeats}

theorem exists_lines_of_parse {text : String} {d : Schema} (h : parse repeats text = .ok d) :
    ∃ ls, List.Forall₂ Line.Written (Text.lines text.toList) ls ∧ Headed ls ∧ d = ofLines ls := by
  obtain ⟨s, hread, rfl⟩ := exists_state_of_parse h
  obtain ⟨ls, hls, htracks⟩ := ReaderState.tracks_start.readLines hread
  exact ⟨ls, hls, htracks.headed, congrArg Schema.mk htracks.groups⟩

theorem parse_of_written {text : String} {ls : List Line}
    (hls : List.Forall₂ Line.Written (Text.lines text.toList) ls) (hhead : Headed ls)
    (honce : repeats = .refuse → Unrepeated ls) : parse repeats text = .ok (ofLines ls) := by
  obtain ⟨s, hread⟩ := ReaderState.tracks_start.exists_readLines hls hhead honce 1
  obtain ⟨ls', hls', htracks⟩ := ReaderState.tracks_start.readLines hread
  obtain rfl := Line.rightUnique_written.forall₂ hls hls'
  rw [parse, hread]
  exact congrArg Except.ok (congrArg Schema.mk htracks.groups)

/-- A schema is read, later declarations taking the place of earlier ones, when each of its lines
is written as a line and no mapping stands in front of the first header, and what is read is the
last section of every name. -/
theorem parse_replace_eq_ok_iff (text : String) (d : Schema) : parse .replace text = .ok d ↔
    ∃ ls, List.Forall₂ Line.Written (Text.lines text.toList) ls ∧ Headed ls ∧ d = ofLines ls := by
  refine ⟨exists_lines_of_parse, ?_⟩
  rintro ⟨ls, hls, hhead, rfl⟩
  exact parse_of_written hls hhead nofun

example : parse .replace "a:\n x: t\nb:\na:\n y: t\n z: u <=> w\n\n y: v <=>" =
    .ok ⟨[⟨"a", [⟨"y", "v", "y"⟩, ⟨"z", "u", "w"⟩]⟩, ⟨"b", []⟩]⟩ := by rfl

end Reshape.Schema
