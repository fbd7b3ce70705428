import Mathlib.Data.List.Forall2
import Reshape.Proofs.Text.Cut
import Reshape.Proofs.Text.Trim
import Reshape.Schema.Line

namespace Reshape.Line

open Text

structure IsName (name : List Char) : Prop where
  ne_nil : name ≠ []
  word : ∀ c ∈ name, c ≠ ':' ∧ ¬ isBlank c

structure IsPath (path : List Char) : Prop where
  ne_nil : path ≠ []
  tight : Tight path
  noColon : ':' ∉ path
  noArrow : ¬ arrow <:+: path

structure IsType (type : List Char) : Prop where
  ne_nil : type ≠ []
  tight : Tight type
  noArrow : ¬ arrow <:+: type

structure IsTarget (target : List Char) : Prop where
  ne_nil : target ≠ []
  tight : Tight target
  noArrow : ¬ arrow <:+: target
  noColon : target.getLast? ≠ some ':'

inductive ModelSide : List Char → List Char → List Char → Prop where
  | mk {path gap gap' type : List Char} (hpath : IsPath path) (hgap : Blanks gap)
      (hgap' : Blanks gap') (htype : IsType type) :
    ModelSide (path ++ gap ++ ':' :: (gap' ++ type)) path type

/-- What a line says when it has no blanks around it. -/
inductive Core : List Char → Line → Prop where
  | header {name gap : List Char} (hname : IsName name) (hgap : Blanks gap) :
    Core (name ++ gap ++ [':']) (.header (.ofList name))
  | plain {side path type : List Char} (hside : ModelSide side path type)
      (hcolon : type.getLast? ≠ some ':') :
    Core side (.mapping ⟨.ofList path, .ofList type, .ofList path⟩)
  | pointless {side path type gap : List Char} (hside : ModelSide side path type)
      (hgap : Blanks gap) :
    Core (side ++ gap ++ arrow) (.mapping ⟨.ofList path, .ofList type, .ofList path⟩)
  | placed {side path type gap gap' target : List Char} (hside : ModelSide side path type)
      (hgap : Blanks gap) (hgap' : Blanks gap') (htarget : IsTarget target) :
    Core (side ++ gap ++ arrow ++ (gap' ++ target))
      (.mapping ⟨.ofList path, .ofList type, .ofList target⟩)

/-- How the lines of a schema are written: a line may hold blanks only, and those around what it
says mean nothing. -/
inductive Written : List Char → Line → Prop where
  | blank {raw : List Char} (h : Blanks raw) : Written raw .blank
  | core {gap core gap' : List Char} {l : Line} (hgap : Blanks gap) (hcore : Core core l)
      (hgap' : Blanks gap') : Written (gap ++ core ++ gap') l

variable {raw core side gap name path type target left right p t : List Char}
  {target? : Option (List Char)} {l : Line} {f : Mapping}

theorem tight_arrow : Tight arrow := by simp [Tight, arrow, isBlank]

theorem arrow_ne_nil : arrow ≠ [] := by simp [arrow]

theorem noArrow_of_trim (h : ¬ arrow <:+: trim right) : ¬ arrow <:+: right :=
  mt (isInfix_trim arrow_ne_nil tight_arrow) h

theorem splitOnce_arrow (h : ¬ arrow <:+: left) :
    splitOnce arrow (left ++ arrow ++ right) = some (left, right) :=
  splitOnce_append (by simp) h

theorem IsName.tight (h : IsName name) : Tight name :=
  ⟨fun c hc ↦ (h.word c (List.mem_of_head? hc)).2,
    fun c hc ↦ (h.word c (List.mem_of_getLast? hc)).2⟩

theorem isName_iff : isName name ↔ IsName name := by
  constructor
  · intro h
    simp only [isName, Bool.and_eq_true, List.all_eq_true] at h
    exact ⟨by simpa using h.1, fun c hc ↦ by simpa using h.2 c hc⟩
  · rintro ⟨hne, hword⟩
    simpa [isName, hne] using hword

namespace ModelSide

theorem tight (h : ModelSide side path type) : Tight side := by
  obtain ⟨hpath, -, -, htype⟩ := h
  rename_i gap gap'
  simpa using hpath.tight.append hpath.ne_nil htype.tight htype.ne_nil (gap ++ ':' :: gap')

theorem ne_nil (h : ModelSide side path type) : side ≠ [] := by
  obtain ⟨-, -, -, -⟩ := h
  simp

theorem isPath (h : ModelSide side path type) : IsPath path := by
  obtain ⟨hpath, -, -, -⟩ := h
  exact hpath

theorem isType (h : ModelSide side path type) : IsType type := by
  obtain ⟨-, -, -, htype⟩ := h
  exact htype

theorem noArrow (h : ModelSide side path type) : ¬ arrow <:+: side := by
  obtain ⟨hpath, hgap, hgap', htype⟩ := h
  intro h
  rcases isInfix_or_isInfix (by simp [arrow]) h with h | h
  · refine noArrow_of_trim ?_ h
    rw [trim_append_blanks hpath.tight hgap]
    exact hpath.noArrow
  · refine noArrow_of_trim ?_ h
    rw [trim_blanks_append hgap' htype.tight]
    exact htype.noArrow

theorem noArrow_append (h : ModelSide side path type) (hgap : Blanks gap) :
    ¬ arrow <:+: side ++ gap := by
  refine noArrow_of_trim ?_
  rw [trim_append_blanks h.tight hgap]
  exact h.noArrow

theorem getLast? (h : ModelSide side path type) : side.getLast? = type.getLast? := by
  obtain ⟨-, -, -, htype⟩ := h
  rename_i gap gap'
  have hside : path ++ gap ++ ':' :: (gap' ++ type) = path ++ gap ++ ':' :: gap' ++ type := by simp
  rw [hside, List.getLast?_append_of_ne_nil _ htype.ne_nil]

theorem exists_cut (h : ModelSide side path type) (hgap : Blanks gap) :
    ∃ p t, splitOnce [':'] (side ++ gap) = some (p, t) ∧ trim p = path ∧ trim t = type := by
  obtain ⟨hpath, hbefore, hafter, htype⟩ := h
  rename_i before after
  have hcolon : ':' ∉ path ++ before := by
    simp only [List.mem_append, not_or]
    exact ⟨hpath.noColon, fun hmem ↦ by simpa [isBlank] using hbefore _ hmem⟩
  refine ⟨path ++ before, after ++ type ++ gap, ?_, ?_, ?_⟩
  · have hcut : splitOnce [':'] (path ++ before ++ ':' :: (after ++ type ++ gap)) = _ :=
      splitOnce_char hcolon
    simpa using hcut
  · exact trim_append_blanks hpath.tight hbefore
  · exact trim_eq hafter hgap htype.tight

end ModelSide

theorem exists_modelSide (hcut : splitOnce [':'] left = some (p, t))
    (hhead : ∀ c ∈ left.head?, ¬ isBlank c) (harrow : ¬ arrow <:+: left) (hp : trim p ≠ [])
    (ht : trim t ≠ []) :
    ∃ side gap, left = side ++ gap ∧ Blanks gap ∧ ModelSide side (trim p) (trim t) := by
  obtain ⟨rfl, hcolon⟩ := eq_of_splitOnce (by simp) hcut
  rw [List.singleton_infix_iff] at hcolon
  obtain ⟨before, gap, hbefore, hgap, hpath⟩ := exists_trim p
  obtain ⟨gap', after, hgap', hafter, htype⟩ := exists_trim t
  have hnil : before = [] := by
    cases before with
    | nil => rfl
    | cons c cs => exact absurd (hbefore c (by simp)) (hhead c (by rw [hpath]; simp))
  have hinp : p <:+: p ++ [':'] ++ t := ⟨[], [':'] ++ t, by simp⟩
  have hint : t <:+: p ++ [':'] ++ t := ⟨p ++ [':'], [], by simp⟩
  refine ⟨trim p ++ gap ++ ':' :: (gap' ++ trim t), after, ?_, hafter,
    .mk ⟨hp, tight_trim p, ?_, ?_⟩ hgap hgap' ⟨ht, tight_trim t, ?_⟩⟩
  · conv_lhs => rw [hpath, htype, hnil]
    simp
  · exact fun h ↦ hcolon ((trim_isInfix p).subset h)
  · exact fun h ↦ harrow (h.trans ((trim_isInfix p).trans hinp))
  · exact fun h ↦ harrow (h.trans ((trim_isInfix t).trans hint))

inductive Sides : List Char → List Char → Option (List Char) → Prop where
  | bare {line : List Char} (h : ¬ arrow <:+: line) : Sides line line none
  | cut {left right : List Char} (hl : ¬ arrow <:+: left) (hr : ¬ arrow <:+: right) :
    Sides (left ++ arrow ++ right) left (some (trim right))

theorem sides_eq_ok_iff : sides core = .ok (left, target?) ↔ Sides core left target? := by
  constructor
  · intro h
    cases hs : splitOnce arrow core with
    | none =>
      simp only [sides, hs, Except.ok.injEq, Prod.mk.injEq] at h
      obtain ⟨rfl, rfl⟩ := h
      exact .bare ((splitOnce_eq_none_iff arrow_ne_nil).1 hs)
    | some cut =>
      obtain ⟨before, after⟩ := cut
      obtain ⟨rfl, hbefore⟩ := eq_of_splitOnce arrow_ne_nil hs
      by_cases hafter : contains arrow after
      · simp only [sides, hs, hafter, if_true] at h
        cases h
      · simp only [sides, hs, hafter, Bool.false_eq_true, if_false, Except.ok.injEq,
          Prod.mk.injEq] at h
        obtain ⟨rfl, rfl⟩ := h
        exact .cut hbefore (mt (contains_iff arrow_ne_nil).2 hafter)
  · rintro (hbare | ⟨hleft, hright⟩)
    · simp [sides, (splitOnce_eq_none_iff arrow_ne_nil).2 hbare]
    · rw [← contains_iff arrow_ne_nil] at hright
      simp only [sides, splitOnce_arrow hleft, hright, Bool.false_eq_true, if_false]

theorem ofSides_eq_ok_iff : ofSides left target? = .ok f ↔
    ∃ p t, splitOnce [':'] left = some (p, t) ∧ trim p ≠ [] ∧ trim t ≠ [] ∧
      f = ⟨.ofList (trim p), .ofList (trim t),
        .ofList ((target?.filter (!·.isEmpty)).getD (trim p))⟩ := by
  constructor
  · intro h
    cases hcut : splitOnce [':'] left with
    | none => simp [ofSides, hcut] at h
    | some cut =>
      obtain ⟨p, t⟩ := cut
      simp only [ofSides, hcut, List.isEmpty_iff] at h
      split at h
      · simp at h
      · split at h
        · simp at h
        · exact ⟨p, t, rfl, ‹_›, ‹_›, (Except.ok.inj h).symm⟩
  · rintro ⟨p, t, hcut, hp, ht, rfl⟩
    simp [ofSides, hcut, hp, ht]

theorem getD_filter_some (target path : List Char) :
    ((some target).filter (!·.isEmpty)).getD path = if target = [] then path else target := by
  cases target <;> rfl

theorem mapping?_eq_ok_iff : mapping? core = .ok f ↔
    ∃ left target?, Sides core left target? ∧ ofSides left target? = .ok f := by
  cases h : sides core with
  | error e =>
    simp only [← sides_eq_ok_iff, mapping?, h, bind, Except.bind]
    simp
  | ok pair =>
    obtain ⟨left, target?⟩ := pair
    simp only [← sides_eq_ok_iff, mapping?, h, bind, Except.bind, Except.ok.injEq, Prod.mk.injEq]
    constructor
    · exact fun hf ↦ ⟨left, target?, ⟨rfl, rfl⟩, hf⟩
    · rintro ⟨_, _, ⟨rfl, rfl⟩, hf⟩
      exact hf

theorem ModelSide.ofSides (h : ModelSide side path type) (hgap : Blanks gap)
    (target? : Option (List Char)) : ofSides (side ++ gap) target? =
      .ok ⟨.ofList path, .ofList type,
        .ofList ((target?.filter (!·.isEmpty)).getD path)⟩ := by
  obtain ⟨p, t, hcut, rfl, rfl⟩ := h.exists_cut hgap
  exact ofSides_eq_ok_iff.2 ⟨p, t, hcut, h.isPath.ne_nil, h.isType.ne_nil, rfl⟩

theorem ModelSide.mapping?_arrow (h : ModelSide side path type) (hgap : Blanks gap)
    (hright : ¬ arrow <:+: right) : mapping? (side ++ gap ++ arrow ++ right) =
      .ok ⟨.ofList path, .ofList type,
        .ofList (if trim right = [] then path else trim right)⟩ := by
  have hm := mapping?_eq_ok_iff.2
    ⟨_, _, .cut (h.noArrow_append hgap) hright, h.ofSides hgap (some (trim right))⟩
  rwa [getD_filter_some] at hm

theorem sides_append (hgap : Blanks gap) (line : List Char) :
    sides (gap ++ line) = (sides line).map (Prod.map (gap ++ ·) id) := by
  have hfirst : '<' ∉ gap := fun hmem ↦ by simpa [isBlank] using hgap _ hmem
  rw [sides, sides, arrow, splitOnce_append_left hfirst, trim_append_of_blanks hgap]
  cases splitOnce ['<', '=', '>'] line with
  | none => rfl
  | some cut =>
    dsimp only [Option.map_some, Prod.map, id]
    split <;> rfl

theorem ofSides_append (hgap : Blanks gap) (left : List Char) (target? : Option (List Char)) :
    ofSides (gap ++ left) target? = ofSides left target? := by
  have hfirst : ':' ∉ gap := fun hmem ↦ by simpa [isBlank] using hgap _ hmem
  rw [ofSides, ofSides, splitOnce_append_left hfirst, trim_append_of_blanks hgap]
  cases splitOnce [':'] left with
  | none => rfl
  | some cut => simp only [Option.map_some, Prod.map, id, trim_append_of_blanks hgap]

theorem mapping?_append (hgap : Blanks gap) (line : List Char) :
    mapping? (gap ++ line) = mapping? line := by
  rw [mapping?, mapping?, sides_append hgap]
  cases sides line with
  | error e => rfl
  | ok pair => exact ofSides_append hgap pair.1 pair.2

/-- Although the blanks in front of a line are only taken off its parts, one after another, the
line is read as if they were not there. -/
theorem ofText_trim (raw : List Char) : ofText (trim raw) = ofText raw := by
  obtain ⟨gap, hgap, hline⟩ := exists_trimStart (trimEnd raw)
  have hstart : trimStart (trim raw) = trim raw := trimStart_of_head (tight_trim raw).1
  have hend : trimEnd (trim raw) = trim raw := trimEnd_of_getLast (tight_trim raw).2
  rw [← trim] at hline
  rw [ofText, ofText, hend, hline, trimStart_append hgap]
  by_cases hnil : trim raw = []
  · rw [hnil]
    rfl
  · simp only [List.getLast?_append_of_ne_nil _ hnil, List.dropLast_append_of_ne_nil hnil,
      trim_append_of_blanks hgap, mapping?_append hgap]

theorem ofText_congr {raw' : List Char} (h : trim raw' = trim raw) : ofText raw' = ofText raw := by
  rw [← ofText_trim raw', h, ofText_trim]

theorem ofText_of_tight (htight : Tight core) (hne : core ≠ []) : ofText core =
    if core.getLast? = some ':' then
      if isName (trim core.dropLast) then .ok (.header (.ofList (trim core.dropLast)))
      else .error (.badName (.ofList (trim core)))
    else (mapping? core).map .mapping := by
  rw [ofText, trimEnd_of_getLast htight.2, trimStart_of_head htight.1]
  simp [hne]

theorem ofText_eq_mapping? (htight : Tight core) (hne : core ≠ [])
    (hlast : core.getLast? ≠ some ':') : ofText core = (mapping? core).map .mapping := by
  rw [ofText_of_tight htight hne, if_neg hlast]

namespace Core

theorem tight (h : Core core l) : Tight core := by
  cases h with
  | header hname hgap =>
    exact hname.tight.append hname.ne_nil (by simp [Tight, isBlank]) (by simp) _
  | plain hside hcolon => exact hside.tight
  | pointless hside hgap => exact hside.tight.append hside.ne_nil tight_arrow arrow_ne_nil _
  | @placed side path type gap gap' target hside hgap hgap' htarget =>
    have h := hside.tight.append hside.ne_nil htarget.tight htarget.ne_nil (gap ++ arrow ++ gap')
    simpa using h

theorem ne_nil (h : Core core l) : core ≠ [] := by
  cases h with
  | header hname hgap => simp
  | plain hside hcolon => exact hside.ne_nil
  | pointless hside hgap => simp [arrow]
  | placed hside hgap hgap' htarget => simp [arrow]

theorem ofText (h : Core core l) : ofText core = .ok l := by
  have htight := h.tight
  have hne := h.ne_nil
  cases h with
  | header hname hgap =>
    rw [ofText_of_tight htight hne, if_pos List.getLast?_concat, List.dropLast_concat,
      trim_append_blanks hname.tight hgap, if_pos (isName_iff.2 hname)]
  | plain hside hcolon =>
    have hm := mapping?_eq_ok_iff.2
      ⟨_, _, .bare hside.noArrow, by simpa using hside.ofSides blanks_nil none⟩
    rw [ofText_eq_mapping? htight hne (hside.getLast? ▸ hcolon), hm]
    rfl
  | @pointless side path type gap hside hgap =>
    have hlast : (side ++ gap ++ arrow).getLast? ≠ some ':' := by
      rw [List.getLast?_append_of_ne_nil _ arrow_ne_nil]
      decide
    have hm := hside.mapping?_arrow hgap (mt List.infix_nil.1 arrow_ne_nil)
    rw [List.append_nil, if_pos (trim_eq_nil_iff.2 blanks_nil)] at hm
    rw [ofText_eq_mapping? htight hne hlast, hm]
    rfl
  | @placed side path type gap gap' target hside hgap hgap' htarget =>
    have htrim := trim_blanks_append hgap' htarget.tight
    have hlast : (side ++ gap ++ arrow ++ (gap' ++ target)).getLast? ≠ some ':' := by
      rw [← List.append_assoc, List.getLast?_append_of_ne_nil _ htarget.ne_nil]
      exact htarget.noColon
    have hright : ¬ arrow <:+: gap' ++ target := by
      refine noArrow_of_trim ?_
      rw [htrim]
      exact htarget.noArrow
    have hm := hside.mapping?_arrow hgap hright
    rw [htrim, if_neg htarget.ne_nil] at hm
    rw [ofText_eq_mapping? htight hne hlast, hm]
    rfl

end Core

theorem core_of_header {init : List Char} (htight : Tight (init ++ [':']))
    (hname : isName (trim init)) : Core (init ++ [':']) (.header (.ofList (trim init))) := by
  obtain ⟨before, gap, hbefore, hgap, hinit⟩ := exists_trim init
  have hnil : before = [] := by
    rw [hinit, List.append_assoc, List.append_assoc] at htight
    exact htight.before_eq_nil hbefore
  have hcore : init ++ [':'] = trim init ++ gap ++ [':'] := by
    conv_lhs => rw [hinit, hnil, List.nil_append]
  rw [hcore]
  exact .header (isName_iff.1 hname) hgap

theorem core_of_mapping? (htight : Tight core) (hlast : core.getLast? ≠ some ':')
    (h : mapping? core = .ok f) : Core core (.mapping f) := by
  obtain ⟨left, target?, hsides, h⟩ := mapping?_eq_ok_iff.1 h
  obtain ⟨p, t, hcut, hp, ht, rfl⟩ := ofSides_eq_ok_iff.1 h
  cases hsides with
  | bare hbare =>
    obtain ⟨side, gap, rfl, hgap, hside⟩ := exists_modelSide hcut htight.1 hbare hp ht
    obtain rfl := htight.after_eq_nil hgap
    rw [List.append_nil] at hlast ⊢
    exact .plain hside (hside.getLast? ▸ hlast)
  | @cut left right hleft hright =>
    have hhead : ∀ c ∈ left.head?, ¬ isBlank c := by
      intro c hc
      apply htight.1 c
      rw [List.append_assoc, List.head?_append, Option.mem_def.1 hc]
      rfl
    obtain ⟨side, gap, rfl, hgap, hside⟩ := exists_modelSide hcut hhead hleft hp ht
    rw [getD_filter_some]
    by_cases hnil : trim right = []
    · obtain rfl := htight.after_eq_nil (trim_eq_nil_iff.1 hnil)
      rw [List.append_nil, if_pos hnil]
      exact .pointless hside hgap
    · obtain ⟨gap', after, hgap', hafter, hr⟩ := exists_trim right
      have hafter' : after = [] := by
        rw [hr, ← List.append_assoc] at htight
        exact htight.after_eq_nil hafter
      rw [hafter', List.append_nil] at hr
      have hlast' : (trim right).getLast? ≠ some ':' := by
        rwa [hr, ← List.append_assoc, List.getLast?_append_of_ne_nil _ hnil] at hlast
      rw [if_neg hnil]
      have hcore := Core.placed hside hgap hgap'
        ⟨hnil, tight_trim right, fun h ↦ hright (h.trans (trim_isInfix right)), hlast'⟩
      rwa [← hr] at hcore

theorem ofText_eq_ok_iff_core (htight : Tight core) (hne : core ≠ []) :
    ofText core = .ok l ↔ Core core l := by
  refine ⟨fun h ↦ ?_, Core.ofText⟩
  by_cases hlast : core.getLast? = some ':'
  · obtain ⟨init, rfl⟩ := List.getLast?_eq_some_iff.1 hlast
    rw [ofText_of_tight htight hne, if_pos hlast, List.dropLast_concat] at h
    split at h
    · obtain rfl := Except.ok.inj h
      exact core_of_header htight ‹_›
    · cases h
  · rw [ofText_eq_mapping? htight hne hlast] at h
    cases hm : mapping? core with
    | error e => simp [hm, Except.map] at h
    | ok f =>
      rw [hm] at h
      obtain rfl := Except.ok.inj h
      exact core_of_mapping? htight hlast hm

/-- Reading a line recognises the lines as they are written, and nothing else. -/
theorem ofText_eq_ok_iff : ofText raw = .ok l ↔ Written raw l := by
  rw [← ofText_trim raw]
  constructor
  · intro h
    obtain ⟨gap, gap', hgap, hgap', hraw⟩ := exists_trim raw
    by_cases hnil : trim raw = []
    · rw [hnil] at h
      obtain rfl := Except.ok.inj h
      exact .blank (trim_eq_nil_iff.1 hnil)
    · rw [hraw]
      exact .core hgap ((ofText_eq_ok_iff_core (tight_trim raw) hnil).1 h) hgap'
  · rintro (hblank | ⟨hgap, hcore, hgap'⟩)
    · rw [trim_eq_nil_iff.2 hblank]
      rfl
    · rw [trim_eq hgap hgap' hcore.tight]
      exact hcore.ofText

theorem rightUnique_written : Relator.RightUnique Written := fun _ _ _ h h' ↦
  Except.ok.inj ((ofText_eq_ok_iff.2 h).symm.trans (ofText_eq_ok_iff.2 h'))

end Reshape.Line
