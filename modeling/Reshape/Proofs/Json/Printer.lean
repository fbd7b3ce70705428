import Reshape.Json.Outline
import Reshape.Proofs.Json.Number

namespace Reshape

namespace Spelling

open Json

theorem hexDigit?_digitChar : ∀ n < 16, hexDigit? (Nat.digitChar n) = some n := by decide

theorem decodePieces_unit {n : Nat} (h : n < 0xD800) (fault : Option Fault) (pieces : List Piece) :
    decodePieces fault (.unit n :: pieces) =
      (decodePieces fault pieces).map (Char.ofNat n :: ·) := by
  have htrail : isTrail n = false := by simp [isTrail]; omega
  have hlead : isLead n = false := by simp [isLead]; omega
  rcases pieces with _ | ⟨_ | _, _⟩ <;> simp [decodePieces, htrail, hlead]

/-- A character is escaped by one letter, by its code, or not at all. -/
theorem escapeChar_cases (c : Char) :
    (∃ e, escapeChar c = ['\\', e] ∧ simpleEscape? e = some c) ∨
    (c.toNat < 0x20 ∧ escapeChar c =
      ['\\', 'u', '0', '0', Nat.digitChar (c.toNat / 16), Nat.digitChar (c.toNat % 16)]) ∨
    (c ≠ '"' ∧ c ≠ '\\' ∧ 0x20 ≤ c.toNat ∧ escapeChar c = [c]) := by
  by_cases hletter : c ∈ ['"', '\\', '\x08', '\t', '\n', '\x0C', '\r']
  · refine .inl ?_
    simp only [List.mem_cons, List.not_mem_nil, or_false] at hletter
    rcases hletter with rfl | rfl | rfl | rfl | rfl | rfl | rfl <;> exact ⟨_, rfl, rfl⟩
  · simp only [List.mem_cons, List.not_mem_nil, or_false, not_or] at hletter
    obtain ⟨hquote, hslash, hb, ht, hn, hf, hr⟩ := hletter
    by_cases hcontrol : c.toNat < 0x20
    · exact .inr (.inl ⟨hcontrol, by
        simp only [escapeChar, hquote, hslash, hb, ht, hn, hf, hr, hcontrol, if_true, if_false]⟩)
    · exact .inr (.inr ⟨hquote, hslash, not_lt.1 hcontrol, by
        simp only [escapeChar, hquote, hslash, hb, ht, hn, hf, hr, hcontrol, if_false]⟩)

/-- An escaped character is one piece of a string, which stands for the character. -/
theorem exists_scan_escapeChar (c : Char) : ∃ piece,
    (∀ rest, scan (escapeChar c ++ rest) =
      (⟨piece :: (scan rest).1.pieces, (scan rest).1.fault⟩, (scan rest).2)) ∧
    ∀ pieces, decodePieces none (piece :: pieces) = (decodePieces none pieces).map (c :: ·) := by
  obtain ⟨e, htext, he⟩ | ⟨hcontrol, htext⟩ | ⟨hquote, hslash, hprint, htext⟩ :=
    escapeChar_cases c <;> rw [htext]
  · have hunit : e ≠ 'u' := by
      rintro rfl
      simp [simpleEscape?] at he
    exact ⟨.char c, fun rest ↦ by simp [scan, hunit, he], fun _ ↦ rfl⟩
  · have hhigh := hexDigit?_digitChar (c.toNat / 16) (by omega)
    have hlow := hexDigit?_digitChar (c.toNat % 16) (by omega)
    have hzero : hexDigit? '0' = some 0 := rfl
    have hvalue : hexValue? ['0', '0', Nat.digitChar (c.toNat / 16), Nat.digitChar (c.toNat % 16)] =
        some c.toNat := by
      simp [hexValue?, hzero, hhigh, hlow]
      omega
    refine ⟨.unit c.toNat, fun rest ↦ by simp [scan, hvalue], fun pieces ↦ ?_⟩
    rw [decodePieces_unit (by omega), Char.ofNat_toNat]
  · have hnot : ¬ c.toNat < 0x20 := not_lt.2 hprint
    exact ⟨.char c, fun rest ↦ by simp [scan, hquote, hslash, hnot], fun _ ↦ rfl⟩

theorem exists_scan_quoted (s : List Char) : ∃ pieces, decodePieces none pieces = .ok s ∧
    ∀ rest, scan (s.flatMap escapeChar ++ '"' :: rest) = (⟨pieces, none⟩, rest) := by
  induction s with
  | nil => exact ⟨[], rfl, fun rest ↦ by simp [scan]⟩
  | cons c s ih =>
    obtain ⟨pieces, hdecode, hscan⟩ := ih
    obtain ⟨piece, hpiece, hchar⟩ := exists_scan_escapeChar c
    refine ⟨piece :: pieces, by rw [hchar, hdecode]; rfl, fun rest ↦ ?_⟩
    rw [List.flatMap_cons, List.append_assoc, hpiece, hscan]

end Spelling

namespace Token

open Json NumberText

variable {rest : List Char}

theorem all_of_not_blank {c : Char} (h : isBlank c = false) (rest : List Char) :
    all (c :: rest) = (scanFrom c rest).1 :: all (scanFrom c rest).2 := by
  rw [all, if_neg (by simp [h])]

theorem all_of_mark {c : Char} {m : Mark} (h : isBlank c = false) (hm : mark? c = some m)
    (rest : List Char) : all (c :: rest) = .mark m :: all rest := by
  rw [all_of_not_blank h, scanFrom, hm]

theorem all_of_blank {c : Char} (h : isBlank c) (rest : List Char) :
    all (c :: rest) = all rest := by
  rw [all, if_pos h]

theorem all_blanks {blanks : List Char} (h : ∀ c ∈ blanks, isBlank c) (rest : List Char) :
    all (blanks ++ rest) = all rest := by
  induction blanks with
  | nil => rfl
  | cons c blanks ih =>
    obtain ⟨hc, hblanks⟩ := List.forall_mem_cons.1 h
    rw [List.cons_append, all_of_blank hc, ih hblanks]

theorem all_newline (depth : Nat) (rest : List Char) :
    all ((newline depth).toList ++ rest) = all rest := by
  refine all_blanks (fun c hc ↦ ?_) rest
  have hc : c = '\n' ∨ (0 < 2 * depth) ∧ c = ' ' := by
    simpa [newline, List.mem_replicate, Nat.pos_iff_ne_zero] using hc
  rcases hc with rfl | ⟨-, rfl⟩ <;> rfl

theorem all_null (rest : List Char) : all ("null".toList ++ rest) = .null :: all rest := by
  simp [all_of_not_blank, isBlank, scanFrom, mark?, scanName]

theorem all_booleanText (b : Bool) (rest : List Char) :
    all ((booleanText b).toList ++ rest) = .boolean b :: all rest := by
  cases b <;> simp [booleanText, all_of_not_blank, isBlank, scanFrom, mark?, scanName]

theorem exists_all_quote (s : String) : ∃ spelling : Spelling, spelling.decode = .ok s ∧
    ∀ rest, all ((quote s).toList ++ rest) = .string spelling :: all rest := by
  obtain ⟨pieces, hdecode, hscan⟩ := Spelling.exists_scan_quoted s.toList
  refine ⟨⟨pieces, none⟩, ?_, fun rest ↦ ?_⟩
  · rw [Spelling.decode, hdecode]
    exact congrArg Except.ok String.ofList_toList
  · have htext : (quote s).toList ++ rest =
        '"' :: (s.toList.flatMap escapeChar ++ '"' :: rest) := by simp [quote]
    rw [htext, all_of_not_blank rfl]
    simp [scanFrom, mark?, hscan]

theorem mark?_of_isDigit {c : Char} (h : c = '-' ∨ c.isDigit) :
    isBlank c = false ∧ mark? c = none ∧ c ≠ '"' ∧ c ≠ 'n' ∧ c ≠ 't' ∧ c ≠ 'f' := by
  rcases h with rfl | h
  · decide
  · have hne {d : Char} (hd : d.isDigit = false) : c ≠ d := by
      rintro rfl
      simp [h] at hd
    refine ⟨by simp [isBlank, hne], ?_, hne rfl, hne rfl, hne rfl, hne rfl⟩
    unfold mark?
    split <;> first | rfl | exact absurd rfl (hne rfl)

theorem all_chars {t : NumberText} (h : t.WellFormed) (hrest : ∀ c ∈ rest.head?, endsNumber c) :
    all (t.chars ++ rest) = .number t :: all rest := by
  have hscan := scan_append h hrest
  obtain ⟨c, cs, hchars, hc⟩ := h.exists_chars_eq_cons
  obtain ⟨hblank, hmark, hquote, hn, ht, hf⟩ := mark?_of_isDigit hc
  rw [hchars, List.cons_append] at hscan ⊢
  rw [all_of_not_blank hblank, scanFrom, hmark]
  dsimp only
  rw [if_neg hquote, if_neg hn, if_neg ht, if_neg hf, if_pos hc, hscan]

end Token

open NumberText

namespace Outline

mutual

/-- The value that a text stands for, nested as deeply as it is, with every member in its place
and every number as it is written. -/
def meaning? : Outline → Option Json
  | .null => some .null
  | .boolean b => some (.boolean b)
  | .number t => some (.number t.exact)
  | .string s => s.decode.toOption.map .string
  | .array items none => (itemMeanings? items).map .array
  | .object members none => (memberMeanings? members).map .object
  | _ => none

def itemMeanings? : List Outline → Option (List Json)
  | [] => some []
  | v :: rest => do
    let v ← meaning? v
    let rest ← itemMeanings? rest
    return v :: rest

def memberMeanings? : List (Spelling × Outline) → Option (List (String × Json))
  | [] => some []
  | (key, v) :: rest => do
    let key ← key.decode.toOption
    let v ← meaning? v
    let rest ← memberMeanings? rest
    return (key, v) :: rest

end

/-- Read where a value may stand, the text is settled as one that stands for `v`. -/
def Reads (text : List Char) (v : Json) : Prop :=
  ∃ o : Outline, o.meaning? = some v ∧ ∀ expected frames rest,
    (expected = .value ∨ expected = .itemOrClose) → (∀ c ∈ rest.head?, endsNumber c) →
      run (.reading expected frames) (Token.all (text ++ rest)) =
        run (settle o frames) (Token.all rest)

def ReadsItems (text : List Char) (items : List Json) : Prop :=
  ∃ os : List Outline, itemMeanings? os = some items ∧ ∀ expected done frames rest,
    (expected = .value ∨ expected = .itemOrClose) → (∀ c ∈ rest.head?, endsNumber c) →
      run (.reading expected (.array done :: frames)) (Token.all (text ++ rest)) =
        run (.reading .commaOrClose (.array (os.reverse ++ done) :: frames)) (Token.all rest)

def ReadsMembers (text : List Char) (members : List (String × Json)) : Prop :=
  ∃ os : List (Spelling × Outline), memberMeanings? os = some members ∧
    ∀ expected done frames rest,
      (expected = .key ∨ expected = .keyOrClose) → (∀ c ∈ rest.head?, endsNumber c) →
        run (.reading expected (.object done :: frames)) (Token.all (text ++ rest)) =
          run (.reading .commaOrClose (.object (os.reverse ++ done) :: frames)) (Token.all rest)

variable {text more : List Char} {v : Json} {vs vs' : List Json}
  {ms ms' : List (String × Json)}

theorem itemMeanings?_append {os os' : List Outline} (h : itemMeanings? os = some vs)
    (h' : itemMeanings? os' = some vs') : itemMeanings? (os ++ os') = some (vs ++ vs') := by
  induction os generalizing vs with
  | nil =>
    obtain rfl : [] = vs := Option.some.inj h
    exact h'
  | cons o os ih =>
    simp only [itemMeanings?, Option.bind_eq_bind, Option.bind_eq_some_iff] at h
    obtain ⟨v, hv, vs, hvs, ⟨⟩⟩ := h
    simp [itemMeanings?, hv, ih hvs]

theorem memberMeanings?_append {os os' : List (Spelling × Outline)} (h : memberMeanings? os = some ms)
    (h' : memberMeanings? os' = some ms') : memberMeanings? (os ++ os') = some (ms ++ ms') := by
  induction os generalizing ms with
  | nil =>
    obtain rfl : [] = ms := Option.some.inj h
    exact h'
  | cons o os ih =>
    simp only [memberMeanings?, Option.bind_eq_bind, Option.bind_eq_some_iff] at h
    obtain ⟨key, hkey, v, hv, ms, hms, ⟨⟩⟩ := h
    simp [memberMeanings?, hkey, hv, ih hms]

theorem run_begin {t : Token} {expected : Expected}
    (h : expected = .value ∨ expected = .itemOrClose) (ht : t ≠ .mark .closeBracket)
    (frames : List Frame) (ts : List Token) :
    run (.reading expected frames) (t :: ts) = run (beginValue frames t) ts := by
  rcases h with rfl | rfl
  · rfl
  · rw [run, step]
    exact ht

theorem reads_null : Reads "null".toList .null :=
  ⟨.null, rfl, fun _ frames rest h _ ↦ by rw [Token.all_null, run_begin h (by simp), beginValue]⟩

theorem reads_boolean (b : Bool) : Reads (Json.booleanText b).toList (.boolean b) :=
  ⟨.boolean b, rfl, fun _ frames rest h _ ↦ by
    rw [Token.all_booleanText, run_begin h (by simp), beginValue]⟩

theorem reads_number {n : JsonNumber} (hn : n.isProper) : Reads n.text.toList (.number n) := by
  obtain ⟨t, hwell, hchars, hexact⟩ := JsonNumber.exists_numberText hn
  refine ⟨.number t, by rw [meaning?, hexact], fun _ frames rest h hrest ↦ ?_⟩
  rw [← hchars, Token.all_chars hwell hrest, run_begin h (by simp), beginValue]

theorem reads_quote (s : String) : Reads (Json.quote s).toList (.string s) := by
  obtain ⟨spelling, hdecode, hall⟩ := Token.exists_all_quote s
  refine ⟨.string spelling, by rw [meaning?, hdecode]; rfl, fun _ frames rest h _ ↦ ?_⟩
  rw [hall, run_begin h (by simp), beginValue]

theorem Reads.item (h : Reads text v) (depth : Nat) :
    ReadsItems ((Json.newline depth).toList ++ text) [v] := by
  obtain ⟨o, hexact, hrun⟩ := h
  refine ⟨[o], by simp [itemMeanings?, hexact], fun expected done frames rest hexpected hrest ↦ ?_⟩
  rw [List.append_assoc, Token.all_newline, hrun expected _ rest hexpected hrest]
  rfl

theorem ReadsItems.append (h : ReadsItems text vs) (hmore : ReadsItems more vs') :
    ReadsItems (text ++ ',' :: more) (vs ++ vs') := by
  obtain ⟨os, hexact, hrun⟩ := h
  obtain ⟨os', hexact', hrun'⟩ := hmore
  refine ⟨os ++ os', itemMeanings?_append hexact hexact',
    fun expected done frames rest hexpected hrest ↦ ?_⟩
  have hcomma : ∀ c ∈ (',' :: (more ++ rest)).head?, endsNumber c := by simp [endsNumber]
  rw [List.append_assoc, List.cons_append, hrun expected done _ _ hexpected hcomma,
    Token.all_of_mark rfl rfl, run, step, hrun' .value _ _ _ (.inl rfl) hrest]
  simp

theorem Reads.member (h : Reads text v) (depth : Nat) (key : String) :
    ReadsMembers ((Json.newline depth).toList ++ ((Json.quote key).toList ++ ':' :: ' ' :: text))
      [(key, v)] := by
  obtain ⟨o, hexact, hrun⟩ := h
  obtain ⟨spelling, hdecode, hall⟩ := Token.exists_all_quote key
  refine ⟨[(spelling, o)], by simp [memberMeanings?, hexact, hdecode, Except.toOption],
    fun expected done frames rest hexpected hrest ↦ ?_⟩
  have hkey (ts : List Token) : run (.reading expected (.object done :: frames))
      (.string spelling :: .mark .colon :: ts) =
        run (.reading .value (.member done spelling :: frames)) ts := by
    rcases hexpected with rfl | rfl <;> rfl
  rw [List.append_assoc, Token.all_newline, List.append_assoc, hall, List.cons_append,
    Token.all_of_mark rfl rfl, List.cons_append, Token.all_of_blank rfl, hkey,
    hrun .value _ rest (.inl rfl) hrest]
  rfl

theorem ReadsMembers.append (h : ReadsMembers text ms) (hmore : ReadsMembers more ms') :
    ReadsMembers (text ++ ',' :: more) (ms ++ ms') := by
  obtain ⟨os, hexact, hrun⟩ := h
  obtain ⟨os', hexact', hrun'⟩ := hmore
  refine ⟨os ++ os', memberMeanings?_append hexact hexact',
    fun expected done frames rest hexpected hrest ↦ ?_⟩
  have hcomma : ∀ c ∈ (',' :: (more ++ rest)).head?, endsNumber c := by simp [endsNumber]
  rw [List.append_assoc, List.cons_append, hrun expected done _ _ hexpected hcomma,
    Token.all_of_mark rfl rfl, run, step, hrun' .key _ _ _ (.inl rfl) hrest]
  simp

theorem reads_emptyArray : Reads "[]".toList (.array []) := by
  refine ⟨.array [] none, rfl, fun _ frames rest h _ ↦ ?_⟩
  rw [show "[]".toList ++ rest = '[' :: ']' :: rest from rfl, Token.all_of_mark rfl rfl,
    Token.all_of_mark rfl rfl, run_begin h (by simp)]
  rfl

theorem ReadsItems.array (h : ReadsItems text vs) (depth : Nat) :
    Reads ('[' :: (text ++ ((Json.newline depth).toList ++ [']']))) (.array vs) := by
  obtain ⟨os, hexact, hrun⟩ := h
  refine ⟨.array os none, by simp [meaning?, hexact], fun _ frames rest hexpected _ ↦ ?_⟩
  have hclose : ∀ c ∈ ((Json.newline depth).toList ++ (']' :: rest)).head?, endsNumber c := by
    simp [Json.newline, endsNumber]
  rw [List.cons_append, Token.all_of_mark rfl rfl, run_begin hexpected (by simp), beginValue,
    List.append_assoc, List.append_assoc, List.singleton_append,
    hrun .itemOrClose _ _ _ (.inr rfl) hclose, Token.all_newline, Token.all_of_mark rfl rfl,
    run, step, closeInner, Frame.close]
  simp

theorem reads_emptyObject : Reads "\x7b\x7d".toList (.object []) := by
  refine ⟨.object [] none, rfl, fun _ frames rest h _ ↦ ?_⟩
  rw [show "\x7b\x7d".toList ++ rest = '\x7b' :: '\x7d' :: rest from rfl, Token.all_of_mark rfl rfl,
    Token.all_of_mark rfl rfl, run_begin h (by simp)]
  rfl

theorem ReadsMembers.object (h : ReadsMembers text ms) (depth : Nat) :
    Reads ('\x7b' :: (text ++ ((Json.newline depth).toList ++ ['\x7d']))) (.object ms) := by
  obtain ⟨os, hexact, hrun⟩ := h
  refine ⟨.object os none, by simp [meaning?, hexact], fun _ frames rest hexpected _ ↦ ?_⟩
  have hclose : ∀ c ∈ ((Json.newline depth).toList ++ ('\x7d' :: rest)).head?, endsNumber c := by
    simp [Json.newline, endsNumber]
  rw [List.cons_append, Token.all_of_mark rfl rfl, run_begin hexpected (by simp), beginValue,
    List.append_assoc, List.append_assoc, List.singleton_append,
    hrun .keyOrClose _ _ _ (.inr rfl) hclose, Token.all_newline, Token.all_of_mark rfl rfl,
    run, step, closeInner, Frame.close]
  simp

end Outline

namespace Json

open Outline

mutual

/-- By the recursion of the printer. -/
theorem reads_prettyAt (depth : Nat) : ∀ v : Json, v.Proper → Reads (prettyAt depth v).toList v
  | .null, _ => reads_null
  | .boolean b, _ => reads_boolean b
  | .number _, h => reads_number h
  | .string s, _ => reads_quote s
  | .array [], _ => reads_emptyArray
  | .array (v :: vs), h => by
    have hitems := readsItems_prettyItems (depth + 1) (v :: vs) (List.cons_ne_nil v vs) h
    simpa [prettyAt] using hitems.array depth
  | .object [], _ => reads_emptyObject
  | .object (m :: ms), h => by
    have hmembers := readsMembers_prettyMembers (depth + 1) (m :: ms) (List.cons_ne_nil m ms) h
    simpa [prettyAt] using hmembers.object depth

theorem readsItems_prettyItems (depth : Nat) : ∀ vs : List Json, vs ≠ [] →
    everywhereAmong isProper vs → ReadsItems (prettyItems depth vs).toList vs
  | [], h, _ => absurd rfl h
  | [v], _, h => by
    have hv : v.everywhere isProper := by simpa [everywhereAmong] using h
    simpa [prettyItems] using (reads_prettyAt depth v hv).item depth
  | v :: v' :: vs, _, h => by
    obtain ⟨hv, hmore⟩ := Bool.and_eq_true_iff.1 h
    have hmore := readsItems_prettyItems depth (v' :: vs) (List.cons_ne_nil v' vs) hmore
    simpa [prettyItems] using ((reads_prettyAt depth v hv).item depth).append hmore

theorem readsMembers_prettyMembers (depth : Nat) : ∀ ms : List (String × Json), ms ≠ [] →
    everywhereBelow isProper ms → ReadsMembers (prettyMembers depth ms).toList ms
  | [], h, _ => absurd rfl h
  | [(key, v)], _, h => by
    have hv : v.everywhere isProper := by simpa [everywhereBelow] using h
    simpa [prettyMembers] using (reads_prettyAt depth v hv).member depth key
  | (key, v) :: m :: ms, _, h => by
    obtain ⟨hv, hmore⟩ := Bool.and_eq_true_iff.1 h
    have hmore := readsMembers_prettyMembers depth (m :: ms) (List.cons_ne_nil m ms) hmore
    simpa [prettyMembers] using ((reads_prettyAt depth v hv).member depth key).append hmore

end

def meaning? (text : String) : Option Json :=
  let (outline, more) := Outline.ofText text
  if more then none else outline.meaning?

/-- The text of a value is read back as the value. -/
theorem meaning?_pretty {v : Json} (h : v.Proper) : meaning? (v.pretty ++ "\n") = some v := by
  obtain ⟨o, hexact, hrun⟩ := reads_prettyAt 0 v h
  have hline := hrun .value [] "\n".toList (.inl rfl) (by simp [endsNumber])
  have hall : Token.all "\n".toList = [] := by simp [Token.all, Token.isBlank]
  rw [settle, hall, run] at hline
  rw [meaning?, Outline.ofText, pretty, String.toList_append, hline]
  exact hexact

end Json

end Reshape
