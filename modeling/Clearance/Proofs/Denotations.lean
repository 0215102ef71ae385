/-
Which texts denote digests, and when two of them denote the same one. A digest
is what is left of a text when blanks and the case of letters are forgotten,
and it stays when its own text is read (`Settled.parse_render`). So two texts
denote one digest exactly if their parts agree up to what was forgotten.

# What is forgotten

`Agree` says it of the texts as they stand: one comes from the other if blanks
are put around it and letters change between small and capital. That is an
equation between what is left of both (`agree_iff`), as blanks are no letters
and the two changes do not get in each other's way.

# Names of algorithms

Two names are read as one algorithm if they agree, and SHA-256 has a second
spelling. Other names are kept in capitals; these are made of small letters
again, and so no two of them fall together (`lowerAscii_name_parse`).
-/
import Clearance.Proofs.Digests
import Mathlib.Data.List.Forall2

namespace Clearance

namespace Text

-- ============================================================== agreeing

/-- A text is another one with blanks around it. -/
def Padded (core text : List Char) : Prop :=
  ∃ front back, text = front ++ (core ++ back)
    ∧ (∀ c ∈ front, isBlank c = true) ∧ ∀ c ∈ back, isBlank c = true

/-- Two texts are the same but for blanks around them and the case of their
letters. -/
def Agree (v w : List Char) : Prop :=
  ∃ x y, Padded x v ∧ Padded y w ∧ List.Forall₂ (fun c d => c.toLower = d.toLower) x y

theorem padded_trimChars (cs : List Char) : Padded (trimChars cs) cs :=
  ⟨leading cs, trailing cs, (leading_append_trailing cs).symm,
    fun _ hc => List.mem_takeWhile_imp hc, fun _ hc => List.mem_rtakeWhile_imp hc⟩

theorem Padded.trimChars_eq {core text : List Char} (h : Padded core text) :
    trimChars text = trimChars core := by
  obtain ⟨front, back, rfl, hfront, hback⟩ := h
  have hstart : trimStartChars (front ++ (core ++ back)) = trimStartChars (core ++ back) :=
    List.dropWhile_append_of_pos hfront
  rw [trimChars, hstart]
  unfold trimChars trimStartChars trimEndChars
  rw [List.dropWhile_append]
  split
  · rename_i hblank
    rw [List.isEmpty_iff.1 hblank, List.dropWhile_eq_nil_iff.2 hback]
  · rw [List.reverse_append, List.dropWhile_append_of_pos (by simpa using hback)]

theorem agree_iff {v w : List Char} :
    Agree v w ↔ (trimChars v).map Char.toLower = (trimChars w).map Char.toLower := by
  have hcase : ∀ {x y : List Char}, List.Forall₂ (fun c d => c.toLower = d.toLower) x y
      ↔ x.map Char.toLower = y.map Char.toLower := by
    intro x y
    rw [← List.forall₂_eq_eq_eq, List.forall₂_map_left_iff, List.forall₂_map_right_iff]
  constructor
  · intro h
    obtain ⟨x, y, hx, hy, hxy⟩ := h
    rw [hx.trimChars_eq, hy.trimChars_eq, ← trimChars_map isBlank_toLower,
      ← trimChars_map isBlank_toLower, hcase.1 hxy]
  · intro h
    exact ⟨_, _, padded_trimChars v, padded_trimChars w, hcase.2 h⟩

instance (v w : List Char) : Decidable (Agree v w) := decidable_of_iff _ agree_iff.symm

theorem lowerAscii_trim_eq_iff {s t : String} :
    lowerAscii (trim s) = lowerAscii (trim t) ↔ Agree s.toList t.toList := by
  rw [agree_iff, lowerAscii, lowerAscii, String.ofList_inj, toList_trim, toList_trim]

-- =============================================================== base 16

/-- The digits in base 16, small and capital. -/
def hexAlphabet : List Char := "0123456789abcdefABCDEF".toList

/-- A text holds digits in base 16, at least two of them and in pairs. -/
structure IsHexText (cs : List Char) : Prop where
  nonempty : cs ≠ []
  even : cs.length % 2 = 0
  digits : ∀ c ∈ cs, c ∈ hexAlphabet

theorem isHexText_iff {cs : List Char} :
    IsHexText cs ↔ cs ≠ [] ∧ cs.length % 2 = 0 ∧ ∀ c ∈ cs, c ∈ hexAlphabet :=
  ⟨fun h => ⟨h.nonempty, h.even, h.digits⟩, fun h => ⟨h.1, h.2.1, h.2.2⟩⟩

instance (cs : List Char) : Decidable (IsHexText cs) :=
  decidable_of_iff (cs ≠ [] ∧ cs.length % 2 = 0
    ∧ cs.all (fun c => hexAlphabet.contains c) = true) <| by
    simp only [isHexText_iff, List.all_eq_true, List.contains_iff_mem]

theorem hexAlphabet_facts {c : Char} (hc : c ∈ hexAlphabet) :
    isBlank c = false ∧ isHexDigit c = true := by
  have hall : (hexAlphabet.all fun c => !isBlank c && isHexDigit c) = true := by decide +kernel
  simpa using List.all_eq_true.1 hall c hc

/-- No digit is blank, so the digits between blanks are what is left of the
text. -/
theorem exists_padded_isHexText_iff {text : List Char} :
    (∃ digits, Padded digits text ∧ IsHexText digits) ↔ IsHexText (trimChars text) := by
  constructor
  · intro h
    obtain ⟨digits, hpadded, h⟩ := h
    have hkept : trimChars digits = digits :=
      trimChars_eq_self (fun c hc => (hexAlphabet_facts (h.digits c (List.mem_of_mem_head? hc))).1)
        fun c hc => (hexAlphabet_facts (h.digits c (List.mem_of_getLast? hc))).1
    rwa [hpadded.trimChars_eq, hkept]
  · intro h
    exact ⟨_, padded_trimChars text, h⟩

theorem toNat_lt_of_isHexDigit {c : Char} (h : isHexDigit c = true) : c.toNat < 128 := by
  have hcode : c.isDigit = true ∨ ('a' ≤ c ∧ c ≤ 'f') ∨ 'A' ≤ c ∧ c ≤ 'F' := by
    unfold isHexDigit hexValue? at h
    by_contra hother
    simp only [not_or] at hother
    simp [hother.1, hother.2.1, hother.2.2] at h
  rcases hcode with hdigit | ⟨-, hletter⟩ | ⟨-, hletter⟩
  · have hlast : c.toNat ≤ 57 := (Char.isDigit_iff_toNat.1 hdigit).2
    omega
  · have hlast : c.toNat ≤ 102 := hletter
    omega
  · have hlast : c.toNat ≤ 70 := hletter
    omega

theorem isHexDigit_iff {c : Char} : isHexDigit c = true ↔ c ∈ hexAlphabet := by
  have hsmall : ∀ n < 128, isHexDigit (Char.ofNat n) = true → Char.ofNat n ∈ hexAlphabet := by
    decide +kernel
  constructor
  · intro h
    have hmem := hsmall c.toNat (toNat_lt_of_isHexDigit h)
    rw [Char.ofNat_toNat] at hmem
    exact hmem h
  · exact fun hc => (hexAlphabet_facts hc).2

theorem isHexDigit_toLower (c : Char) : isHexDigit c.toLower = isHexDigit c := by
  have hsmall : ∀ n < 128, isHexDigit (Char.ofNat n).toLower = isHexDigit (Char.ofNat n) := by
    decide +kernel
  by_cases hc : c.toNat < 128
  · have hn := hsmall c.toNat hc
    rwa [Char.ofNat_toNat] at hn
  · have hkept : c.toLower = c := by
      apply Char.toNat_inj.1
      rw [toNat_toLower, if_neg (by omega)]
    rw [hkept]

theorem utf8Size_of_isHexDigit {c : Char} (h : isHexDigit c = true) : c.utf8Size = 1 := by
  have hcode := toNat_lt_of_isHexDigit h
  exact Char.utf8Size_eq_one_iff.2 (UInt32.le_iff_toNat_le.2 (Nat.le_of_lt_succ hcode))

end Text

-- ============================================================ algorithms

namespace Algorithm

open Text (Agree)

/-- A name is one of the two of SHA-256. -/
def NamesSha256 (name : List Char) : Prop :=
  Agree name "sha256".toList ∨ Agree name "sha-256".toList

theorem namesSha256_iff {text : String} :
    NamesSha256 text.toList ↔
      (Text.lowerAscii (Text.trim text) == "sha256" || Text.lowerAscii (Text.trim text) == "sha-256")
        = true := by
  have hkept : Text.lowerAscii (Text.trim "sha256") = "sha256"
      ∧ Text.lowerAscii (Text.trim "sha-256") = "sha-256" := by decide +kernel
  rw [NamesSha256, ← Text.lowerAscii_trim_eq_iff, ← Text.lowerAscii_trim_eq_iff, hkept.1, hkept.2,
    Bool.or_eq_true, beq_iff_eq, beq_iff_eq]

theorem parse_of_namesSha256 {text : String} (h : NamesSha256 text.toList) :
    parse text = .sha256 := by
  rw [parse, if_pos (namesSha256_iff.1 h)]

/-- The name of another algorithm is kept, up to the case of its letters. -/
theorem lowerAscii_name_parse {text : String} (h : ¬ NamesSha256 text.toList) :
    parse text ≠ .sha256
      ∧ Text.lowerAscii (parse text).name = Text.lowerAscii (Text.trim text) := by
  rw [namesSha256_iff] at h
  rw [parse, if_neg h]
  split
  · rename_i hblake
    have hsmall : Text.lowerAscii "blake3" = "blake3" := by decide +kernel
    exact ⟨Algorithm.noConfusion, hsmall.trans (eq_of_beq hblake).symm⟩
  · exact ⟨Algorithm.noConfusion, Text.lowerAscii_upperAscii_lowerAscii _⟩

/-- Names are read as one algorithm if they agree or are those of SHA-256. -/
theorem parse_eq_parse_iff {x y : String} :
    parse x = parse y ↔
      Agree x.toList y.toList ∨ NamesSha256 x.toList ∧ NamesSha256 y.toList := by
  constructor
  · intro h
    by_cases hx : NamesSha256 x.toList
    · rw [parse_of_namesSha256 hx] at h
      exact Or.inr ⟨hx, not_not.1 fun hy => (lowerAscii_name_parse hy).1 h.symm⟩
    · obtain ⟨hother, hname⟩ := lowerAscii_name_parse hx
      have hy : ¬ NamesSha256 y.toList := fun hy => hother (h.trans (parse_of_namesSha256 hy))
      rw [h, (lowerAscii_name_parse hy).2] at hname
      exact Or.inl (Text.lowerAscii_trim_eq_iff.1 hname.symm)
  · intro h
    rcases h with hagree | ⟨hx, hy⟩
    · unfold parse
      rw [Text.lowerAscii_trim_eq_iff.2 hagree]
    · rw [parse_of_namesSha256 hx, parse_of_namesSha256 hy]

end Algorithm

-- =============================================================== digests

namespace Digest

open Text (Agree IsHexText Padded)

theorem hexFault?_eq_none_iff {text : String} :
    hexFault? text = none ↔
      text.toList.length % 2 = 0 ∧ ∀ c ∈ text.toList, Text.isHexDigit c = true := by
  -- the length counts bytes, which makes no difference once all are digits
  have hsize : (∀ c ∈ text.toList, Text.isHexDigit c = true) →
      text.utf8ByteSize = text.toList.length := fun h =>
    Text.utf8ByteSize_eq_length fun c hc => Text.utf8Size_of_isHexDigit (h c hc)
  dsimp only [hexFault?]
  split
  · rename_i hodd
    refine iff_of_false (by simp) fun h => ?_
    rw [hsize h.2, beq_iff_eq] at hodd
    omega
  · rename_i heven
    split
    · rename_i hrest
      have hdigits := List.dropWhile_eq_nil_iff.1 hrest
      rw [hsize hdigits, beq_iff_eq] at heven
      exact iff_of_true rfl ⟨by omega, hdigits⟩
    · rename_i hrest
      refine iff_of_false (by simp) fun h => ?_
      rw [List.dropWhile_eq_nil_iff.2 h.2] at hrest
      cases hrest

/-- Making the letters small leaves digits what they are. -/
theorem isHexText_trimChars_iff {value : String} :
    IsHexText (Text.trimChars value.toList) ↔
      ¬ (Text.lowerAscii (Text.trim value)).isEmpty = true
        ∧ hexFault? (Text.lowerAscii (Text.trim value)) = none := by
  have hchars : (Text.lowerAscii (Text.trim value)).toList
      = (Text.trimChars value.toList).map Char.toLower := by
    rw [Text.lowerAscii, String.toList_ofList, Text.toList_trim]
  rw [hexFault?_eq_none_iff, String.isEmpty_iff, ← String.toList_eq_nil_iff, hchars,
    List.map_eq_nil_iff, List.length_map, Text.isHexText_iff]
  simp only [List.forall_mem_map, Text.isHexDigit_toLower]
  simp only [Text.isHexDigit_iff]

theorem make_eq_ok_iff {algorithm : Algorithm} {value : String} {d : Digest} :
    make algorithm value = .ok d ↔
      IsHexText (Text.trimChars value.toList)
        ∧ d = ⟨algorithm, Text.lowerAscii (Text.trim value)⟩ := by
  rw [isHexText_trimChars_iff]
  dsimp only [make]
  split
  · rename_i hempty
    exact iff_of_false nofun fun h => h.1.1 hempty
  · rename_i hsome
    split
    · rename_i hfault
      refine iff_of_false nofun fun h => ?_
      rw [hfault] at h
      cases h.1.2
    · rename_i hfault
      rw [Except.ok.injEq, eq_comm]
      exact (and_iff_right ⟨hsome, hfault⟩).symm

/-- A text falls apart at its first colon. -/
def Cut (s : String) (name value : List Char) : Prop :=
  s.toList = name ++ ':' :: value ∧ ':' ∉ name

instance (s : String) (name value : List Char) : Decidable (Cut s name value) :=
  inferInstanceAs (Decidable (_ ∧ _))

/-- What a text denotes, by its parts. -/
theorem Cut.parse_eq_ok_iff {s : String} {name value : List Char} (h : Cut s name value)
    {d : Digest} :
    parse s = .ok d ↔ IsHexText (Text.trimChars value)
      ∧ d = ⟨.parse (.ofList name), Text.lowerAscii (Text.trim (.ofList value))⟩ := by
  rw [parse, Text.splitFirst_eq_some_iff.2 h]
  show make _ _ = _ ↔ _
  rw [make_eq_ok_iff, String.toList_ofList]

/-- Only a text with a colon denotes anything. -/
theorem exists_cut_of_parse {s : String} {d : Digest} (h : parse s = .ok d) :
    ∃ name value, Cut s name value := by
  unfold parse at h
  split at h
  · cases h
  · rename_i name value hsplit
    exact ⟨name, value, Text.splitFirst_eq_some_iff.1 hsplit⟩

/-- A text denotes a digest exactly if pairs of digits stand after its first
colon, with or without blanks around them. The digest stays when its own text
is read, and two texts denote one digest exactly if the values agree, and the
names agree or are both names of SHA-256. -/
theorem parse_denotes (s : String) :
    ((∃ d, parse s = .ok d) ↔
        ∃ name value digits, Cut s name value ∧ Padded digits value ∧ IsHexText digits)
      ∧ (∀ d, parse s = .ok d → parse d.render = .ok d)
      ∧ ∀ t d e name value name' value', parse s = .ok d → parse t = .ok e →
        Cut s name value → Cut t name' value' →
        (d = e ↔ Agree value value'
          ∧ (Agree name name' ∨ Algorithm.NamesSha256 name ∧ Algorithm.NamesSha256 name')) := by
  refine ⟨⟨?_, ?_⟩, fun d hd => (settled_of_parse hd).parse_render, ?_⟩
  · intro hsome
    obtain ⟨d, hd⟩ := hsome
    obtain ⟨name, value, hcut⟩ := exists_cut_of_parse hd
    have hhex := (hcut.parse_eq_ok_iff.1 hd).1
    obtain ⟨digits, hpadded, hdigits⟩ := Text.exists_padded_isHexText_iff.2 hhex
    exact ⟨name, value, digits, hcut, hpadded, hdigits⟩
  · intro hparts
    obtain ⟨name, value, digits, hcut, hpadded, hdigits⟩ := hparts
    have hhex := Text.exists_padded_isHexText_iff.1 ⟨digits, hpadded, hdigits⟩
    exact ⟨_, hcut.parse_eq_ok_iff.2 ⟨hhex, rfl⟩⟩
  · intro t d e name value name' value' hd he hs ht
    obtain ⟨-, rfl⟩ := hs.parse_eq_ok_iff.1 hd
    obtain ⟨-, rfl⟩ := ht.parse_eq_ok_iff.1 he
    rw [Digest.mk.injEq, Algorithm.parse_eq_parse_iff, Text.lowerAscii_trim_eq_iff]
    simp only [String.toList_ofList]
    exact and_comm

/-- Both names of SHA-256, with blanks and capitals and without. -/
theorem parse_denotes_respelled :
    ∃ d, parse " SHA-256 : ABcd " = .ok d ∧ parse d.render = .ok d
      ∧ parse "sha256:abcd" = .ok d := by
  have hs : Cut " SHA-256 : ABcd " " SHA-256 ".toList " ABcd ".toList := by
    decide
  have ht : Cut "sha256:abcd" "sha256".toList "abcd".toList := by
    decide
  obtain ⟨hsome, hagain, hsame⟩ := parse_denotes " SHA-256 : ABcd "
  obtain ⟨d, hd⟩ := hsome.2
    ⟨_, _, _, hs, Text.padded_trimChars _, by decide +kernel⟩
  obtain ⟨e, he⟩ := (parse_denotes "sha256:abcd").1.2
    ⟨_, _, _, ht, Text.padded_trimChars _, by decide +kernel⟩
  have hvalues : Agree " ABcd ".toList "abcd".toList := by decide +kernel
  have hname : Algorithm.NamesSha256 " SHA-256 ".toList := Or.inr (by decide +kernel)
  have hname' : Algorithm.NamesSha256 "sha256".toList := Or.inl (by decide +kernel)
  obtain rfl := (hsame _ d e _ _ _ _ hd he hs ht).2 ⟨hvalues, Or.inr ⟨hname, hname'⟩⟩
  exact ⟨d, hd, hagain d hd, he⟩

end Digest

end Clearance
