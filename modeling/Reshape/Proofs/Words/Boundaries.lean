import Reshape.Proofs.Text.Lines
import Reshape.Proofs.Words.Fusion

namespace Reshape.Words

open Text

variable {v w : List Char} {vs ws : List (List Char)} {c : Char} {s t : List Char}

def Solid (w : List Char) : Prop := (∀ c ∈ w, c.isDigit) ∨ ∀ c ∈ w, Capital c ∨ Small c

inductive Raised : List Char → Prop where
  | number {w : List Char} (hne : w ≠ []) (hdigits : ∀ c ∈ w, c.isDigit) : Raised w
  | letters {c : Char} {w : List Char} (hc : Capital c) (hw : ∀ d ∈ w, Small d) : Raised (c :: w)

theorem Solid.allPlain (h : Solid w) : AllPlain w :=
  fun c hc ↦ h.imp (· c hc) (· c hc)

theorem Raised.ne_nil (h : Raised w) : w ≠ [] := by
  cases h with
  | number hne _ => exact hne
  | letters => simp

theorem Raised.allPlain (h : Raised w) : AllPlain w := by
  cases h with
  | number _ hdigits => exact fun c hc ↦ .inl (hdigits c hc)
  | letters hc hw => exact List.forall_mem_cons.2 ⟨hc.plain, fun d hd ↦ (hw d hd).plain⟩

theorem lowerCase_of_isDigit (h : ∀ c ∈ w, c.isDigit) : lowerCase w = w := by
  induction w with
  | nil => rfl
  | cons c w ih =>
    obtain ⟨hc, hw⟩ := List.forall_mem_cons.1 h
    obtain ⟨d, hd, -, hcons, -⟩ := lowerCase_cons fun c hc ↦ .inl (h c hc)
    rw [lower_of_isDigit hc, List.singleton_inj] at hd
    rw [hcons, ih hw, hd]

theorem small_of_mem_lowerCase (h : ∀ c ∈ w, Capital c ∨ Small c) : ∀ d ∈ lowerCase w, Small d := by
  rw [lowerCase_of_plain fun c hc ↦ .inr (h c hc)]
  intro d hd
  obtain ⟨c, hc, hd⟩ := List.mem_flatMap.1 hd
  rcases h c hc with ⟨small, h⟩ | ⟨capital, h⟩
  · rw [h.lower_capital, List.mem_singleton] at hd
    exact hd ▸ ⟨c, h⟩
  · rw [h.lower_small, List.mem_singleton] at hd
    exact hd ▸ ⟨capital, h⟩

theorem raised_capitalize (h : Solid w) (hne : w ≠ []) : Raised (capitalize w) := by
  obtain ⟨c, w, rfl⟩ := List.exists_cons_of_ne_nil hne
  rcases h with h | h
  · obtain ⟨hc, hw⟩ := List.forall_mem_cons.1 h
    rw [capitalize, upper_of_isDigit hc, lowerCase_of_isDigit hw]
    exact .number hne h
  · obtain ⟨hc, hw⟩ := List.forall_mem_cons.1 h
    obtain ⟨d, hd, hcapital⟩ : ∃ d, upper c = [d] ∧ Capital d := by
      rcases hc with ⟨small, h⟩ | ⟨capital, h⟩
      · exact ⟨c, h.upper_capital, small, h⟩
      · exact ⟨capital, h.upper_small, c, h⟩
    rw [capitalize, hd]
    exact .letters hcapital (small_of_mem_lowerCase hw)

theorem lowerCase_capitalize (h : AllPlain w) : lowerCase (capitalize w) = lowerCase w := by
  cases w with
  | nil => rfl
  | cons c w =>
    obtain ⟨hc, hw⟩ := List.forall_mem_cons.1 h
    obtain ⟨d, hd, hplain, hsame⟩ := hc.exists_upper
    have hall : ∀ e ∈ [d] ++ lowerCase w, Plain e := by
      exact List.forall_mem_cons.2 ⟨hplain, allPlain_lowerCase hw⟩
    rw [capitalize, hd,
      lowerCase_append (List.forall_mem_singleton.2 hplain) (allPlain_lowerCase hw),
      lowerCase_lowerCase hw, hplain.lowerCase_singleton, hsame, ← hc.lowerCase_singleton,
      ← lowerCase_append (List.forall_mem_singleton.2 hc) hw]
    rfl

def singles (s : List Char) : List (List Char) := s.map ([·])

/-- Whether two characters belong to one word whatever follows. -/
def Joined (a b : Char) : Prop := ∀ after, breaksBetween [a] [b] after = false

theorem isDigits_singleton (c : Char) : isDigits [c] = c.isDigit := Bool.and_true _

theorem splitWords_cons (hc : c ≠ ' ') (rest : List (List Char)) : splitWords ([c] :: rest) =
    if endsWord [c] rest then ([c], (splitWords rest).1 :: (splitWords rest).2)
    else (c :: (splitWords rest).1, (splitWords rest).2) := by
  have hcluster : ([c] : List Char) ≠ [' '] := by simpa using hc
  simp only [splitWords, if_neg hcluster]
  rfl

/-- A part that no word ends in is split off, or goes on with the first word after it. -/
theorem splitWords_append (hne : w ≠ []) (hjoined : w.IsChain Joined) (hspace : ∀ c ∈ w, c ≠ ' ')
    (t : List Char) : splitWords (singles (w ++ t)) =
      if endsWord [w.getLast hne] (singles t) then
        (w, (splitWords (singles t)).1 :: (splitWords (singles t)).2)
      else (w ++ (splitWords (singles t)).1, (splitWords (singles t)).2) := by
  induction w with
  | nil => exact absurd rfl hne
  | cons c w ih =>
    obtain ⟨hc, hw⟩ := List.forall_mem_cons.1 hspace
    cases w with
    | nil => exact splitWords_cons hc (singles t)
    | cons d w =>
      obtain ⟨hcd, hchain⟩ := List.isChain_cons_cons.1 hjoined
      have hends : endsWord [c] (singles (d :: w ++ t)) = false := hcd _
      have hstep := splitWords_cons hc (singles (d :: w ++ t))
      rw [if_neg (Bool.eq_false_iff.1 hends), ih (List.cons_ne_nil d w) hchain hw] at hstep
      rw [List.getLast_cons (List.cons_ne_nil d w)]
      refine hstep.trans ?_
      split <;> rfl

theorem joined_of_isDigit (ha : c.isDigit) {d : Char} (hd : d.isDigit) : Joined c d := by
  intro after
  simp [breaksBetween, isLower_of_isDigit, isUpper_of_isDigit, ha, hd]

theorem joined_of_small (hc : Capital c ∨ Small c) {d : Char} (hd : Small d) : Joined c d := by
  intro after
  rcases hc with hc | hc <;>
    simp [breaksBetween, isDigits_singleton, hc.isLower, hc.isUpper, hc.not_isDigit, hd.isUpper,
      hd.not_isDigit]

theorem Raised.isChain_joined (h : Raised w) : w.IsChain Joined := by
  refine List.Pairwise.isChain ?_
  cases h with
  | number _ hdigits =>
    exact List.pairwise_of_forall_mem_list fun a ha b hb ↦
      joined_of_isDigit (hdigits a ha) (hdigits b hb)
  | letters hc hw =>
    refine List.pairwise_cons.2 ⟨fun b hb ↦ joined_of_small (.inl hc) (hw b hb), ?_⟩
    exact List.pairwise_of_forall_mem_list fun a ha b hb ↦
      joined_of_small (.inr (hw a ha)) (hw b hb)

theorem Raised.isLower_head? (h : Raised w) : ∀ c ∈ (w ++ t).head?, isLower [c] = false := by
  cases h with
  | number hne hdigits =>
    obtain ⟨d, w, rfl⟩ := List.exists_cons_of_ne_nil hne
    intro c hc
    obtain rfl := Option.some_inj.1 hc
    exact isLower_of_isDigit (List.forall_mem_cons.1 hdigits).1
  | letters hcapital hw =>
    intro c hc
    obtain rfl := Option.some_inj.1 hc
    exact hcapital.isLower

theorem breaks_after_digit {d : Char} (hc : c.isDigit) (hd : Capital d)
    (after : Option (List Char)) : breaksBetween [c] [d] after := by
  simp [breaksBetween, isDigits_singleton, hc, hd.isUpper]

theorem breaks_after_small {d : Char} (hc : Small c) (hd : d.isDigit ∨ Capital d)
    (after : Option (List Char)) : breaksBetween [c] [d] after := by
  rcases hd with hd | hd
  · simp [breaksBetween, isDigits_singleton, hc.isLower, hd]
  · simp [breaksBetween, hc.isLower, hd.isUpper]

theorem breaks_before_digit {d : Char} (hc : Capital c) (hd : d.isDigit)
    (after : Option (List Char)) : breaksBetween [c] [d] after := by
  simp [breaksBetween, isDigits_singleton, hc.isUpper, hd]

theorem breaks_between_capitals {d : Char} (hc : Capital c) (hd : Capital d)
    (after : Option (List Char)) : breaksBetween [c] [d] after ↔ after.any isLower := by
  simp [breaksBetween, isDigits_singleton, hc.isUpper, hc.isLower, hc.not_isDigit, hd.isUpper,
    hd.not_isDigit]

theorem isDigits_iff : isDigits w ↔ ∀ c ∈ w, c.isDigit := by simp [isDigits]

theorem not_isDigits_of_capital (hc : Capital c) (w : List Char) : ¬ isDigits (c :: w) := by
  simp [isDigits, hc.not_isDigit]

theorem endsWord_of_isDigit (hc : c.isDigit) (hw : Raised w) :
    endsWord [c] (singles (w ++ t)) ↔ ¬ isDigits w := by
  cases hw with
  | number hne hdigits =>
    obtain ⟨d, w, rfl⟩ := List.exists_cons_of_ne_nil hne
    have hjoined := joined_of_isDigit hc (List.forall_mem_cons.1 hdigits).1
    exact iff_of_false (Bool.eq_false_iff.1 (hjoined _)) (not_not_intro (isDigits_iff.2 hdigits))
  | letters hd _ => exact iff_of_true (breaks_after_digit hc hd _) (not_isDigits_of_capital hd _)

theorem endsWord_of_small (hc : Small c) (hw : Raised w) : endsWord [c] (singles (w ++ t)) := by
  cases hw with
  | number hne hdigits =>
    obtain ⟨d, w, rfl⟩ := List.exists_cons_of_ne_nil hne
    exact breaks_after_small hc (.inl (List.forall_mem_cons.1 hdigits).1) _
  | letters hd _ => exact breaks_after_small hc (.inr hd) _

/-- Only a capital that stands alone goes on with another one that does. -/
theorem endsWord_of_capital (hc : Capital c) (hw : Raised w)
    (ht : ∀ c ∈ t.head?, isLower [c] = false) :
    endsWord [c] (singles (w ++ t)) ↔ isDigits w ∨ w.length ≠ 1 := by
  cases hw with
  | number hne hdigits =>
    obtain ⟨d, w, rfl⟩ := List.exists_cons_of_ne_nil hne
    exact iff_of_true (breaks_before_digit hc (List.forall_mem_cons.1 hdigits).1 _)
      (.inl (isDigits_iff.2 hdigits))
  | @letters d w hd hsmall =>
    refine (breaks_between_capitals hc hd _).trans ?_
    rw [or_iff_right (not_isDigits_of_capital hd w)]
    cases w with
    | nil =>
      cases t with
      | nil => simp
      | cons e t => simp [ht e rfl]
    | cons e w => simp [(hsmall e List.mem_cons_self).isLower]

/-- Where raised words are put together, they are split again unless they fuse. -/
theorem endsWord_getLast_iff (hv : Raised v) (hw : Raised w)
    (ht : ∀ c ∈ t.head?, isLower [c] = false) :
    endsWord [v.getLast hv.ne_nil] (singles (w ++ t)) ↔ ¬ Fuses v w := by
  cases hv with
  | number hne hdigits =>
    have hv : isDigits v := isDigits_iff.2 hdigits
    rw [endsWord_of_isDigit (hdigits _ (List.getLast_mem hne)) hw]
    simp [Fuses, hv]
  | @letters c v hc hsmall =>
    have hv := not_isDigits_of_capital hc v
    cases v with
    | nil =>
      have hfuses : Fuses [c] w ↔ w.length = 1 ∧ ¬ isDigits w := by simp [Fuses, hv]
      rw [List.getLast_singleton, endsWord_of_capital hc hw ht, hfuses, not_and_not_right,
        imp_iff_or_not]
    | cons e v =>
      have hlast : Small ((c :: e :: v).getLast (List.cons_ne_nil _ _)) := by
        rw [List.getLast_cons (List.cons_ne_nil e v)]
        exact hsmall _ (List.getLast_mem _)
      exact iff_of_true (endsWord_of_small hlast hw) (by simp [Fuses, hv])

theorem splitWords_flatten (h : ∀ v ∈ w :: ws, Raised v) :
    (splitWords (singles (w :: ws).flatten)).1 :: (splitWords (singles (w :: ws).flatten)).2 =
      fused (w :: ws) := by
  induction ws generalizing w with
  | nil =>
    have hw : Raised w := List.forall_mem_singleton.1 h
    have hsplit := splitWords_append hw.ne_nil hw.isChain_joined
      (fun c hc ↦ (hw.allPlain c hc).ne_space) []
    rw [List.append_nil] at hsplit
    rw [List.flatten_singleton, hsplit]
    simp [singles, endsWord, splitWords, fused]
  | cons next rest ih =>
    obtain ⟨hw, hrest⟩ := List.forall_mem_cons.1 h
    obtain ⟨hnext, hothers⟩ := List.forall_mem_cons.1 hrest
    have hsplit := splitWords_append hw.ne_nil hw.isChain_joined
      (fun c hc ↦ (hw.allPlain c hc).ne_space) (next :: rest).flatten
    have hhead : ∀ c ∈ rest.flatten.head?, isLower [c] = false := by
      cases rest with
      | nil => simp
      | cons other others => exact (List.forall_mem_cons.1 hothers).1.isLower_head?
    have hends := endsWord_getLast_iff hw hnext hhead
    rw [List.flatten_cons, hsplit, fused, ← ih hrest, List.flatten_cons]
    by_cases hfuses : Fuses w next
    · rw [if_pos hfuses, if_neg fun h ↦ hends.1 h hfuses]
      rfl
    · rw [if_neg hfuses, if_pos (hends.2 hfuses)]

theorem solid_singleton (h : Plain c) : Solid [c] := by
  rcases h with h | h
  · exact .inl (List.forall_mem_singleton.2 h)
  · exact .inr (List.forall_mem_singleton.2 h)

theorem solid_cons {d : Char} {after : Option (List Char)} (hc : Plain c) (hw : Solid (d :: w))
    (hjoined : breaksBetween [c] [d] after = false) : Solid (c :: d :: w) := by
  have hnot : ¬ breaksBetween [c] [d] after := Bool.eq_false_iff.1 hjoined
  rcases hw with hw | hw
  · have hd := (List.forall_mem_cons.1 hw).1
    rcases hc with hc | hc | hc
    · exact .inl (List.forall_mem_cons.2 ⟨hc, hw⟩)
    · exact absurd (breaks_before_digit hc hd after) hnot
    · exact absurd (breaks_after_small hc (.inl hd) after) hnot
  · have hd := (List.forall_mem_cons.1 hw).1
    rcases hc with hc | hc
    · rcases hd with hd | hd
      · exact absurd (breaks_after_digit hc hd after) hnot
      · refine absurd ?_ hnot
        simp [breaksBetween, isDigits_singleton, hc, hd.isLower]
    · exact .inr (List.forall_mem_cons.2 ⟨hc, hw⟩)

/-- The words of a text in which all letters are plain are numbers and words of letters. The first
one, if it is not empty, begins as the text does. -/
theorem solid_splitWords (h : ∀ c ∈ s, c = ' ' ∨ Plain c) :
    (∀ w ∈ (splitWords (singles s)).1 :: (splitWords (singles s)).2, Solid w) ∧
      ∀ c ∈ (splitWords (singles s)).1.head?, c ∈ s.head? := by
  have hnil : Solid [] := .inl (by simp)
  induction s with
  | nil => exact ⟨List.forall_mem_singleton.2 hnil, by simp [singles, splitWords]⟩
  | cons c s ih =>
    obtain ⟨hc, hs⟩ := List.forall_mem_cons.1 h
    obtain ⟨hsolid, hhead⟩ := ih hs
    rcases hc with rfl | hc
    · exact ⟨List.forall_mem_cons.2 ⟨hnil, hsolid⟩, by simp [singles, splitWords]⟩
    · have hstep := splitWords_cons hc.ne_space (singles s)
      have hsingles : singles (c :: s) = [c] :: singles s := rfl
      rw [hsingles, hstep]
      split
      · exact ⟨List.forall_mem_cons.2 ⟨solid_singleton hc, hsolid⟩, by simp⟩
      · rename_i hends
        obtain ⟨hfirst, hothers⟩ := List.forall_mem_cons.1 hsolid
        refine ⟨List.forall_mem_cons.2 ⟨?_, hothers⟩, by simp⟩
        cases hcases : (splitWords (singles s)).1 with
        | nil => exact solid_singleton hc
        | cons d w =>
          rw [hcases] at hfirst hhead
          obtain ⟨s, rfl⟩ := List.head?_eq_some_iff.1 (hhead d rfl)
          exact solid_cons hc hfirst (Bool.eq_false_iff.2 hends)

theorem eq_nil_of_splitWords (hpieces : splitWords (singles s) = ([], [])) : s = [] := by
  cases s with
  | nil => rfl
  | cons c s =>
    by_cases hc : c = ' '
    · simp [singles, splitWords, hc] at hpieces
    · have hsingles : singles (c :: s) = [c] :: singles s := rfl
      rw [hsingles, splitWords_cons hc] at hpieces
      split at hpieces <;> simp at hpieces

def PlainName (s : String) : Prop := ∀ c ∈ s.toList, isAlphanumeric c → Plain c

instance (s : String) : Decidable (PlainName s) :=
  List.decidableBAll (fun c ↦ isAlphanumeric c → Plain c) s.toList

variable {name : String}

theorem plain_spaced (h : PlainName name) : ∀ c ∈ spaced name, c = ' ' ∨ Plain c := by
  intro c hc
  obtain ⟨d, hd, rfl⟩ := List.mem_map.1 hc
  split
  · exact .inr (h d hd ‹_›)
  · exact .inl rfl

theorem clusters_spaced (h : PlainName name) : clusters (spaced name) = singles (spaced name) := by
  refine clusters_of_alone fun c hc ↦ ?_
  rcases plain_spaced h c hc with rfl | hplain
  · decide
  · exact hplain.alone

theorem words_of_ne_empty (h : PlainName name) (hne : name ≠ "") : words name =
    (splitWords (singles (spaced name))).1 :: (splitWords (singles (spaced name))).2 := by
  rw [words, if_neg (by simpa using hne), clusters_spaced h]

theorem words_eq_nil_iff : words name = [] ↔ name = "" := by
  unfold words
  split <;> simp_all

theorem solid_words (h : PlainName name) : ∀ w ∈ words name, Solid w := by
  by_cases hne : name = ""
  · rw [words_eq_nil_iff.2 hne]
    simp
  · rw [words_of_ne_empty h hne]
    exact (solid_splitWords (plain_spaced h)).1

theorem words_ne_singleton_nil (h : PlainName name) : words name ≠ [[]] := by
  intro hwords
  have hne : name ≠ "" := by
    rw [Ne, ← words_eq_nil_iff, hwords]
    simp
  rw [words_of_ne_empty h hne, List.cons.injEq] at hwords
  have hnil := eq_nil_of_splitWords (Prod.ext hwords.1 hwords.2)
  exact hne (by simpa [spaced] using hnil)

theorem flatten_capitalize (ws : List (List Char)) :
    ((ws.filter (· ≠ [])).map capitalize).flatten = ws.flatMap capitalize := by
  induction ws with
  | nil => rfl
  | cons w ws ih =>
    cases w with
    | nil => exact ih
    | cons c w =>
      rw [List.filter_cons_of_pos (by simp), List.map_cons, List.flatten_cons, ih]
      rfl

theorem toList_pascal (name : String) : (pascal name).toList =
    (((words name).filter (· ≠ [])).map capitalize).flatten := by
  rw [flatten_capitalize, pascal, String.toList_ofList]

theorem raised_words (h : PlainName name) :
    ∀ v ∈ ((words name).filter (· ≠ [])).map capitalize, Raised v := by
  intro v hv
  obtain ⟨w, hw, rfl⟩ := List.mem_map.1 hv
  obtain ⟨hmem, hne⟩ := List.mem_filter.1 hw
  exact raised_capitalize (solid_words h w hmem) (by simpa using hne)

theorem plain_of_mem_pascal (h : PlainName name) : ∀ c ∈ (pascal name).toList, Plain c := by
  intro c hc
  rw [toList_pascal] at hc
  obtain ⟨v, hv, hc⟩ := List.mem_flatten.1 hc
  exact (raised_words h v hv).allPlain c hc

theorem spaced_pascal (h : PlainName name) : spaced (pascal name) = (pascal name).toList := by
  refine (List.map_congr_left fun c hc ↦ ?_).trans (List.map_id' _)
  exact if_pos (plain_of_mem_pascal h c hc).alphanumeric

theorem words_pascal (h : PlainName name) :
    words (pascal name) = fused (((words name).filter (· ≠ [])).map capitalize) := by
  have hraised := raised_words h
  have hplain : PlainName (pascal name) := fun c hc _ ↦ plain_of_mem_pascal h c hc
  have htext := toList_pascal name
  cases hwords : ((words name).filter (· ≠ [])).map capitalize with
  | nil =>
    rw [hwords] at htext
    have hempty : pascal name = "" := by simpa using htext
    rw [words_eq_nil_iff.2 hempty]
    rfl
  | cons v vs =>
    rw [hwords] at hraised htext
    have hne : pascal name ≠ "" := by
      have hv := (List.forall_mem_cons.1 hraised).1.ne_nil
      rintro hempty
      rw [hempty, List.flatten_cons] at htext
      exact hv (List.append_eq_nil_iff.1 htext.symm).1
    rw [words_of_ne_empty hplain hne, spaced_pascal h, htext]
    exact splitWords_flatten hraised

def hyphenated (ws : List (List Char)) : String :=
  "-".intercalate (ws.map fun w ↦ String.ofList (lowerCase w))

theorem kebab_eq_hyphenated (name : String) : kebab name = hyphenated (words name) := rfl

theorem hyphenated_congr (h : ws.map lowerCase = vs.map lowerCase) :
    hyphenated ws = hyphenated vs := by
  have hpieces := congrArg (List.map String.ofList) h
  rw [List.map_map, List.map_map] at hpieces
  exact congrArg ("-".intercalate) hpieces

theorem toList_hyphenated_cons (w : List Char) (ws : List (List Char)) :
    (hyphenated (w :: ws)).toList = joinWith '-' (lowerCase w) (ws.map lowerCase) := by
  have hjoin (w : List Char) (ws : List (List Char)) :
      ['-'].intercalate (w :: ws) = joinWith '-' w ws := by
    induction ws generalizing w with
    | nil => simp [joinWith]
    | cons next rest ih => simp [List.intercalate_cons_cons, ih, joinWith]
  have hpieces : ((w :: ws).map fun w ↦ String.ofList (lowerCase w)).map String.toList =
      lowerCase w :: ws.map lowerCase := by simp [Function.comp_def]
  rw [hyphenated, String.toList_intercalate, hpieces]
  exact hjoin (lowerCase w) (ws.map lowerCase)

/-- Words of letters and digits can be told from the text. -/
theorem hyphenated_injective (hv : ∀ u ∈ vs, AllPlain u) (hw : ∀ u ∈ ws, AllPlain u)
    (hvs : vs ≠ []) (hws : ws ≠ []) (h : hyphenated vs = hyphenated ws) :
    vs.map lowerCase = ws.map lowerCase := by
  have hhyphen {ws : List (List Char)} (hws : ∀ u ∈ ws, AllPlain u) :
      ∀ u ∈ ws.map lowerCase, '-' ∉ u := by
    intro u hu hmem
    obtain ⟨w, hw, rfl⟩ := List.mem_map.1 hu
    exact absurd (allPlain_lowerCase (hws w hw) '-' hmem).alphanumeric (by decide)
  obtain ⟨v, vs, rfl⟩ := List.exists_cons_of_ne_nil hvs
  obtain ⟨w, ws, rfl⟩ := List.exists_cons_of_ne_nil hws
  have htext := congrArg String.toList h
  rw [toList_hyphenated_cons, toList_hyphenated_cons] at htext
  have hpair := splitOn_joinWith (hhyphen hv)
  rw [htext, splitOn_joinWith (hhyphen hw), Prod.mk.injEq] at hpair
  exact (List.cons_eq_cons.2 hpair).symm

/-- The words of a name that is put together again are spelled as they stand, but for the empty
ones and for those that fuse. -/
theorem kebab_pascal (h : PlainName name) :
    kebab (pascal name) = hyphenated (fused ((words name).filter (· ≠ []))) := by
  have hsolid : ∀ w ∈ (words name).filter (· ≠ []), AllPlain w := fun w hw ↦
    (solid_words h w (List.mem_filter.1 hw).1).allPlain
  have hraised : ∀ v ∈ ((words name).filter (· ≠ [])).map capitalize, AllPlain v := fun v hv ↦
    (raised_words h v hv).allPlain
  rw [kebab_eq_hyphenated, words_pascal h]
  refine hyphenated_congr ?_
  rw [← fused_map_lowerCase hraised, ← fused_map_lowerCase hsolid, List.map_map]
  exact congrArg fused (List.map_congr_left fun w hw ↦ lowerCase_capitalize (hsolid w hw))

/-- Only the empty name has no words that could be told from none. -/
theorem words_eq_nil_of_hyphenated (h : PlainName name)
    (hempty : hyphenated (words name) = hyphenated []) : words name = [] := by
  by_contra hwords
  have hplain : ∀ w ∈ words name, AllPlain w := fun w hw ↦ (solid_words h w hw).allPlain
  have hnil : ∀ w ∈ [([] : List Char)], AllPlain w := by simp [AllPlain]
  have hmap := hyphenated_injective hplain hnil hwords (List.cons_ne_nil _ _) hempty
  obtain ⟨w, hw, hlower⟩ := List.map_eq_singleton_iff.1 hmap
  have hlength := length_lowerCase (hplain w (hw ▸ List.mem_singleton_self w))
  rw [hlower] at hlength
  obtain rfl : w = [] := List.length_eq_zero_iff.1 hlength.symm
  exact words_ne_singleton_nil h hw

theorem kebab_pascal_eq_iff (h : PlainName name) :
    kebab (pascal name) = kebab name ↔ Kept (words name) := by
  have hplain : ∀ w ∈ words name, AllPlain w := fun w hw ↦ (solid_words h w hw).allPlain
  rw [kebab_pascal h, kebab_eq_hyphenated]
  constructor
  · intro heq
    refine kept_of_length ?_
    cases hkept : (words name).filter (· ≠ []) with
    | nil =>
      rw [hkept] at heq
      rw [words_eq_nil_of_hyphenated h heq.symm]
      rfl
    | cons w ws =>
      have hwords : words name ≠ [] := by
        intro hnil
        rw [hnil] at hkept
        cases hkept
      have hfused : ∀ u ∈ fused (w :: ws), AllPlain u := allPlain_fused fun u hu ↦
        hplain u (List.mem_filter.1 (hkept ▸ hu)).1
      rw [hkept] at heq
      have hmap := hyphenated_injective hfused hplain (fused_ne_nil w ws) hwords heq
      simpa using congrArg List.length hmap
  · rintro ⟨hnil, hchain⟩
    have hfilter : (words name).filter (· ≠ []) = words name := by
      refine List.filter_eq_self.2 fun w hw ↦ decide_eq_true ?_
      rintro rfl
      exact hnil hw
    rw [hfilter, fused_of_isChain hchain]

end Reshape.Words
