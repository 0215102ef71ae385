/-
Digests and their texts. A digest is made from a text, by `Digest.parse`,
or from the bytes of a file, by `Digest.compute`. Its own text is read as
the digest that it was, in both cases.

# What is made of a text

Reading leaves out blanks and makes the letters of the value small and
those of an unknown algorithm capital. To read again what was left changes
nothing:

- Without blanks around it a text has none to lose, and neither case has
  anything to do with blanks (`trim_map`).
- Small letters stay small. Capital letters become the small ones that
  they were made of (`toLower_toUpper_toLower`).
- The name of an algorithm has no colon, since it stands before the first
  one, so the text of the digest falls apart at the same place.

# What is computed

Both algorithms give 32 bytes, whatever the file (`length_hash`). Of a
nonempty list of bytes the digits are small, without blanks, and even in
number, which is all that is asked of a value.
-/
import Clearance.Identity.Digest
import Mathlib.Data.List.DropRight

namespace Clearance

namespace Text

-- =========================================================== characters

theorem toNat_toLower (c : Char) :
    c.toLower.toNat = if 65 ≤ c.toNat ∧ c.toNat ≤ 90 then c.toNat + 32 else c.toNat := by
  unfold Char.toLower
  split
  · rename_i h
    have hletter : 65 ≤ c.val.toNat ∧ c.val.toNat ≤ 90 := h
    have hshift : ('a'.val - 'A'.val).toNat = 32 := by decide
    show (c.val + ('a'.val - 'A'.val)).toNat
      = if 65 ≤ c.val.toNat ∧ c.val.toNat ≤ 90 then _ else _
    rw [if_pos hletter, UInt32.toNat_add, hshift]
    show _ = c.val.toNat + 32
    omega
  · rename_i h
    have hother : ¬ (65 ≤ c.toNat ∧ c.toNat ≤ 90) := h
    rw [if_neg hother]

theorem toNat_toUpper (c : Char) :
    c.toUpper.toNat = if 97 ≤ c.toNat ∧ c.toNat ≤ 122 then c.toNat - 32 else c.toNat := by
  unfold Char.toUpper
  split
  · rename_i h
    have hletter : 97 ≤ c.val.toNat ∧ c.val.toNat ≤ 122 := h
    -- subtracting is adding up to the next power of two
    have hshift : ('A'.val - 'a'.val).toNat = 2 ^ 32 - 32 := by decide
    show (c.val + ('A'.val - 'a'.val)).toNat
      = if 97 ≤ c.val.toNat ∧ c.val.toNat ≤ 122 then _ else _
    rw [if_pos hletter, UInt32.toNat_add, hshift]
    show _ = c.val.toNat - 32
    omega
  · rename_i h
    have hother : ¬ (97 ≤ c.toNat ∧ c.toNat ≤ 122) := h
    rw [if_neg hother]

theorem toLower_toUpper_toLower (c : Char) : c.toLower.toUpper.toLower = c.toLower := by
  apply Char.toNat_inj.1
  rw [toNat_toLower, toNat_toUpper, toNat_toLower]
  repeat' split
  all_goals omega

theorem toLower_toLower (c : Char) : c.toLower.toLower = c.toLower := by
  apply Char.toNat_inj.1
  rw [toNat_toLower, toNat_toLower]
  repeat' split
  all_goals omega

theorem isBlank_toLower (c : Char) : isBlank c.toLower = isBlank c := by
  unfold isBlank
  rw [toNat_toLower, Bool.eq_iff_iff]
  simp only [Bool.or_eq_true, Bool.and_eq_true, beq_iff_eq, decide_eq_true_eq]
  split
  · omega
  · rfl

theorem isBlank_toUpper (c : Char) : isBlank c.toUpper = isBlank c := by
  unfold isBlank
  rw [toNat_toUpper, Bool.eq_iff_iff]
  simp only [Bool.or_eq_true, Bool.and_eq_true, beq_iff_eq, decide_eq_true_eq]
  split
  · omega
  · rfl

/-- No letter becomes a colon. -/
theorem colon_of_toUpper_toLower {c : Char} (h : c.toLower.toUpper = ':') : c = ':' := by
  have hcode : c.toLower.toUpper.toNat = 58 := by rw [h]; rfl
  apply Char.toNat_inj.1
  rw [toNat_toUpper, toNat_toLower] at hcode
  show c.toNat = 58
  repeat' split at hcode
  all_goals omega

-- ============================================================= trimming

theorem trimChars_map {f : Char → Char} (hf : ∀ c, isBlank (f c) = isBlank c) (cs : List Char) :
    trimChars (cs.map f) = (trimChars cs).map f := by
  have hblank : isBlank ∘ f = isBlank := funext hf
  rw [trimChars, trimStartChars, List.dropWhile_map, hblank, trimEndChars, ← List.map_reverse,
    List.dropWhile_map, hblank, ← List.map_reverse]
  rfl

theorem trimChars_trimChars (cs : List Char) : trimChars (trimChars cs) = trimChars cs := by
  have hfront : trimChars cs <+: trimStartChars cs := List.rdropWhile_prefix isBlank _
  have hstart : trimStartChars (trimChars cs) = trimChars cs := by
    refine List.dropWhile_eq_self_iff.2 fun hlength => ?_
    have hfirst := List.dropWhile_eq_self_iff.1 (List.dropWhile_idempotent isBlank cs)
      (Nat.lt_of_lt_of_le hlength hfront.length_le)
    rw [hfront.getElem hlength]
    exact hfirst
  rw [trimChars, hstart]
  exact List.rdropWhile_idempotent isBlank _

theorem mem_of_mem_trimChars {cs : List Char} {c : Char} (h : c ∈ trimChars cs) : c ∈ cs :=
  (List.dropWhile_sublist _).subset ((List.rdropWhile_prefix isBlank _).subset h)

/-- The blanks before a text. -/
def leading (cs : List Char) : List Char := cs.takeWhile isBlank

/-- The blanks after a text; of one that is blank altogether all are
before it. -/
def trailing (cs : List Char) : List Char := (trimStartChars cs).rtakeWhile isBlank

theorem leading_append_trailing (cs : List Char) :
    leading cs ++ (trimChars cs ++ trailing cs) = cs := by
  have hend : trimChars cs ++ trailing cs = trimStartChars cs := List.rdropWhile_append_rtakeWhile ..
  rw [hend]
  exact List.takeWhile_append_dropWhile

-- ================================================================ cases

/-- A text whose characters are changed one by one, and blanks to blanks
only, is trimmed before or after that. -/
theorem trim_map {f : Char → Char} (hf : ∀ c, isBlank (f c) = isBlank c) (s : String) :
    trim (String.ofList (s.toList.map f)) = String.ofList ((trim s).toList.map f) := by
  rw [trim, String.toList_ofList, trimChars_map hf, toList_trim]

theorem trim_lowerAscii (s : String) : trim (lowerAscii s) = lowerAscii (trim s) :=
  trim_map isBlank_toLower s

theorem trim_upperAscii (s : String) : trim (upperAscii s) = upperAscii (trim s) :=
  trim_map isBlank_toUpper s

theorem trim_trim (s : String) : trim (trim s) = trim s := by
  rw [trim, toList_trim, trimChars_trimChars]
  rfl

theorem lowerAscii_lowerAscii (s : String) : lowerAscii (lowerAscii s) = lowerAscii s := by
  rw [lowerAscii, lowerAscii, String.toList_ofList, List.map_map]
  exact congrArg _ (List.map_congr_left fun c _ => toLower_toLower c)

theorem lowerAscii_upperAscii_lowerAscii (s : String) :
    lowerAscii (upperAscii (lowerAscii s)) = lowerAscii s := by
  rw [lowerAscii, upperAscii, lowerAscii, String.toList_ofList, String.toList_ofList,
    List.map_map, List.map_map]
  exact congrArg _ (List.map_congr_left fun c _ => toLower_toUpper_toLower c)

/-- What was trimmed and made small stays as it is. -/
theorem lowerAscii_trim_lowerAscii_trim (s : String) :
    lowerAscii (trim (lowerAscii (trim s))) = lowerAscii (trim s) := by
  rw [trim_lowerAscii, trim_trim, lowerAscii_lowerAscii]

/-- What was made capital after that is the same once it is small again. -/
theorem lowerAscii_trim_upperAscii (s : String) :
    lowerAscii (trim (upperAscii (lowerAscii (trim s)))) = lowerAscii (trim s) := by
  rw [trim_upperAscii, trim_lowerAscii, trim_trim, lowerAscii_upperAscii_lowerAscii]

/-- Nothing is trimmed from a text whose ends are not blank. -/
theorem trimChars_eq_self {cs : List Char} (hfirst : ∀ c ∈ cs.head?, isBlank c = false)
    (hlast : ∀ c ∈ cs.getLast?, isBlank c = false) : trimChars cs = cs := by
  have hstart : trimStartChars cs = cs := by
    cases cs with
    | nil => rfl
    | cons c cs => exact List.dropWhile_cons_of_neg (by simp [hfirst c rfl])
  rw [trimChars, hstart]
  refine List.rdropWhile_eq_self_iff.2 fun hne => ?_
  simp [hlast _ (List.getLast?_eq_some_getLast hne)]

-- ============================================================ splitting

theorem splitFirst_append {p : Char → Bool} {before after : List Char} {c : Char}
    (hbefore : ∀ d ∈ before, p d = false) (hc : p c = true) :
    splitFirst p (before ++ c :: after) = some (before, after) := by
  induction before with
  | nil => simp [splitFirst, hc]
  | cons d before ih =>
      rw [List.forall_mem_cons] at hbefore
      simp [splitFirst, hbefore.1, ih hbefore.2]

/-- The first cut is at the first character that passes. -/
theorem of_splitFirst_eq_some {p : Char → Bool} {cs before after : List Char}
    (h : splitFirst p cs = some (before, after)) :
    (∀ d ∈ before, p d = false) ∧ ∃ c, p c = true ∧ cs = before ++ c :: after := by
  induction cs generalizing before after with
  | nil => exact absurd h (by simp [splitFirst])
  | cons c cs ih =>
      unfold splitFirst at h
      split at h
      · rename_i hc
        obtain ⟨rfl, rfl⟩ := Prod.mk.inj (Option.some.inj h)
        exact ⟨by simp, c, hc, rfl⟩
      · rename_i hc
        obtain ⟨⟨before', after'⟩, hrest, heq⟩ := Option.map_eq_some_iff.1 h
        obtain ⟨rfl, rfl⟩ := Prod.mk.inj heq
        obtain ⟨hbefore, d, hd, rfl⟩ := ih hrest
        exact ⟨List.forall_mem_cons.2 ⟨by simpa using hc, hbefore⟩, d, hd, rfl⟩

/-- A text is cut at a character where that stands first. -/
theorem splitFirst_eq_some_iff {x : Char} {cs before after : List Char} :
    splitFirst (· == x) cs = some (before, after) ↔ cs = before ++ x :: after ∧ x ∉ before := by
  constructor
  · intro h
    obtain ⟨hbefore, c, hc, rfl⟩ := of_splitFirst_eq_some h
    rw [eq_of_beq hc]
    exact ⟨rfl, fun hmem => beq_eq_false_iff_ne.1 (hbefore x hmem) rfl⟩
  · rintro ⟨rfl, hbefore⟩
    exact splitFirst_append (fun d hd => beq_false_of_ne (ne_of_mem_of_not_mem hd hbefore))
      (beq_self_eq_true x)

-- =============================================================== base 16

/-- The digits that bytes are written with. -/
theorem digitChar_facts : ∀ n < 16, (Nat.digitChar n).toLower = Nat.digitChar n
    ∧ isBlank (Nat.digitChar n) = false ∧ isHexDigit (Nat.digitChar n) = true
    ∧ (Nat.digitChar n).utf8Size = 1 := by
  decide

theorem exists_of_mem_hexOfBytes {bytes : List UInt8} {c : Char}
    (h : c ∈ (hexOfBytes bytes).toList) : ∃ n < 16, c = Nat.digitChar n := by
  rw [hexOfBytes, String.toList_ofList] at h
  obtain ⟨b, -, hc⟩ := List.mem_flatMap.1 h
  have hbyte : b.toNat < 256 := b.toNat_lt
  rcases List.mem_cons.1 hc with rfl | hc
  · exact ⟨b.toNat / 16, by omega, rfl⟩
  · exact ⟨b.toNat % 16, by omega, List.mem_singleton.1 hc⟩

/-- Characters of one byte each are as many as the bytes. -/
theorem utf8ByteSize_eq_length {s : String} (h : ∀ c ∈ s.toList, c.utf8Size = 1) :
    s.utf8ByteSize = s.toList.length := by
  have hlist : ∀ cs : List Char, (∀ c ∈ cs, c.utf8Size = 1) →
      (String.ofList cs).utf8ByteSize = cs.length := by
    intro cs hcs
    induction cs with
    | nil => rfl
    | cons c cs ih =>
        rw [List.forall_mem_cons] at hcs
        rw [String.ofList_cons, String.utf8ByteSize_append, String.utf8ByteSize_singleton, hcs.1,
          ih hcs.2, List.length_cons, Nat.add_comm]
  have hs := hlist s.toList h
  rwa [String.ofList_toList] at hs

theorem utf8ByteSize_hexOfBytes (bytes : List UInt8) :
    (hexOfBytes bytes).utf8ByteSize = 2 * bytes.length := by
  have hsize : ∀ c ∈ (hexOfBytes bytes).toList, c.utf8Size = 1 := by
    intro c hc
    obtain ⟨n, hn, rfl⟩ := exists_of_mem_hexOfBytes hc
    exact (digitChar_facts n hn).2.2.2
  rw [utf8ByteSize_eq_length hsize, hexOfBytes, String.toList_ofList]
  simp [List.length_flatMap, Nat.mul_comm]

theorem lowerAscii_trim_hexOfBytes (bytes : List UInt8) :
    lowerAscii (trim (hexOfBytes bytes)) = hexOfBytes bytes := by
  have hblank : ∀ c ∈ (hexOfBytes bytes).toList, isBlank c = false := by
    intro c hc
    obtain ⟨n, hn, rfl⟩ := exists_of_mem_hexOfBytes hc
    exact (digitChar_facts n hn).2.1
  have hkept : trimChars (hexOfBytes bytes).toList = (hexOfBytes bytes).toList :=
    trimChars_eq_self (fun c hc => hblank c (List.mem_of_mem_head? hc))
      fun c hc => hblank c (List.mem_of_getLast? hc)
  have hsmall : ∀ c ∈ (hexOfBytes bytes).toList, c.toLower = id c := by
    intro c hc
    obtain ⟨n, hn, rfl⟩ := exists_of_mem_hexOfBytes hc
    exact (digitChar_facts n hn).1
  rw [lowerAscii, toList_trim, hkept, List.map_congr_left hsmall,
    List.map_id, String.ofList_toList]

end Text

-- =============================================================== hashes

theorem Hash.Sha256.length_hash (message : List UInt8) : (hash message).length = 32 := by
  simp [hash, toBigEndian, toLittleEndian]

namespace Hash.Blake3

theorem size_mix (s : Array UInt32) (a b c d : Nat) (x y : UInt32) :
    (mix s a b c d x y).size = s.size := by
  simp [mix]

theorem size_round (s block : Array UInt32) : (round s block).size = s.size := by
  unfold round
  refine List.foldlRecOn (motive := fun t : Array UInt32 => t.size = s.size) _ _ rfl ?_
  rintro t ht ⟨i, a, b, c, d⟩ -
  rw [size_mix, ht]

theorem size_rounds (n : Nat) (s block : Array UInt32) : (rounds n s block).size = s.size := by
  induction n generalizing s block with
  | zero => rfl
  | succ n ih => rw [rounds, ih, size_round]

theorem length_compress {n : Node} (h : n.input.length = 8) (flags : UInt32) :
    (n.compress flags).length = 8 := by
  simp [Node.compress, size_rounds, start, h]

theorem length_input_chunkFrom (counter : Nat) {input : List UInt32} (h : input.length = 8)
    (flags : UInt32) (blocks : List (List UInt8)) :
    (chunkFrom counter input flags blocks).input.length = 8 := by
  induction blocks generalizing input flags with
  | nil => exact h
  | cons block rest ih =>
      unfold chunkFrom
      split
      · exact h
      · exact h
      · rename_i heq
        obtain ⟨rfl, rfl⟩ := List.cons.inj heq
        refine ih (length_compress ?_ 0) 0
        exact h

theorem length_input_tree (counter : Nat) (chunks : List (List UInt8)) :
    (tree counter chunks).input.length = 8 := by
  unfold tree
  split
  · exact length_input_chunkFrom _ rfl _ _
  · exact length_input_chunkFrom _ rfl _ _
  · rfl

theorem length_hash (message : List UInt8) : (hash message).length = 32 := by
  have hwords := length_compress (length_input_tree 0 (pieces 1023 message)) root
  simp [hash, toLittleEndian, hwords]

end Hash.Blake3

-- ============================================================== digests

/-- The name of an algorithm that was read is read as that algorithm. -/
theorem Algorithm.parse_name_parse (text : String) :
    parse (parse text).name = parse text := by
  have hagain : Text.lowerAscii (Text.trim (Text.upperAscii (Text.lowerAscii (Text.trim text))))
      = Text.lowerAscii (Text.trim text) := Text.lowerAscii_trim_upperAscii text
  by_cases hsha : (Text.lowerAscii (Text.trim text) == "sha256"
      || Text.lowerAscii (Text.trim text) == "sha-256") = true
  · have hparse : parse text = .sha256 := by rw [parse, if_pos hsha]
    rw [hparse]
    decide +kernel
  · by_cases hblake : (Text.lowerAscii (Text.trim text) == "blake3") = true
    · have hparse : parse text = .blake3 := by rw [parse, if_neg hsha, if_pos hblake]
      rw [hparse]
      decide +kernel
    · have hparse : parse text = .other (Text.upperAscii (Text.lowerAscii (Text.trim text))) := by
        rw [parse, if_neg hsha, if_neg hblake]
      rw [hparse, name, parse, hagain, if_neg hsha, if_neg hblake]

/-- The name of an algorithm holds a colon only if the text did that it was
read from. -/
theorem Algorithm.colon_notMem_name_parse {text : String} (h : ':' ∉ text.toList) :
    ':' ∉ (parse text).name.toList := by
  dsimp only [parse]
  split
  · decide
  · split
    · decide
    · intro hmem
      simp only [name, Text.upperAscii, Text.lowerAscii, String.toList_ofList, List.map_map,
        Text.toList_trim, List.mem_map, Function.comp_apply] at hmem
      obtain ⟨c, hc, hcolon⟩ := hmem
      exact h (Text.colon_of_toUpper_toLower hcolon ▸ Text.mem_of_mem_trimChars hc)

namespace Digest

/-- A digest as reading leaves it. -/
structure Settled (d : Digest) : Prop where
  algorithm : Algorithm.parse d.algorithm.name = d.algorithm
  colon : ':' ∉ d.algorithm.name.toList
  value : make d.algorithm d.value = .ok d

/-- The text of a settled digest is read as that digest. -/
theorem Settled.parse_render {d : Digest} (h : d.Settled) : parse d.render = .ok d := by
  have htext : d.render.toList = d.algorithm.name.toList ++ ':' :: d.value.toList := by
    simp [render]
  have hsplit : Text.splitFirst (· == ':') d.render.toList
      = some (d.algorithm.name.toList, d.value.toList) :=
    Text.splitFirst_eq_some_iff.2 ⟨htext, h.colon⟩
  rw [parse, hsplit]
  show make (Algorithm.parse (String.ofList d.algorithm.name.toList))
    (String.ofList d.value.toList) = .ok d
  rw [String.ofList_toList, String.ofList_toList, h.algorithm, h.value]

/-- Making a digest settles its value. -/
theorem make_value_of_make {algorithm : Algorithm} {value : String} {d : Digest}
    (h : make algorithm value = .ok d) :
    d.algorithm = algorithm ∧ make algorithm d.value = .ok d := by
  have hagain := Text.lowerAscii_trim_lowerAscii_trim value
  dsimp only [make] at h
  split at h
  · cases h
  · rename_i hsome
    split at h
    · cases h
    · rename_i hdigits
      cases h
      refine ⟨rfl, ?_⟩
      dsimp only [make]
      rw [hagain, if_neg hsome, hdigits]

theorem settled_of_parse {input : String} {d : Digest} (h : parse input = .ok d) : d.Settled := by
  unfold parse at h
  split at h
  · cases h
  · rename_i algorithm value hsplit
    obtain ⟨halgorithm, hvalue⟩ := make_value_of_make h
    have hcolon : ':' ∉ (String.ofList algorithm).toList := by
      rw [String.toList_ofList]
      exact (Text.splitFirst_eq_some_iff.1 hsplit).2
    constructor
    · rw [halgorithm, Algorithm.parse_name_parse]
    · rw [halgorithm]
      exact Algorithm.colon_notMem_name_parse hcolon
    · rw [halgorithm, hvalue]

/-- The value of a computed digest is settled: a nonempty list of bytes in
base 16. -/
theorem make_hexOfBytes (algorithm : Algorithm) {bytes : List UInt8} (h : bytes.length = 32) :
    make algorithm (Text.hexOfBytes bytes) = .ok ⟨algorithm, Text.hexOfBytes bytes⟩ := by
  have hsize := Text.utf8ByteSize_hexOfBytes bytes
  have hsome : ¬ (Text.hexOfBytes bytes).isEmpty = true := by
    rw [String.isEmpty_iff_utf8ByteSize_eq_zero]
    omega
  have heven : ¬ ((Text.hexOfBytes bytes).utf8ByteSize % 2 == 1) = true := by
    rw [beq_iff_eq]
    omega
  have hdigits : (Text.hexOfBytes bytes).toList.dropWhile Text.isHexDigit = [] := by
    rw [List.dropWhile_eq_nil_iff]
    intro c hc
    obtain ⟨n, hn, rfl⟩ := Text.exists_of_mem_hexOfBytes hc
    exact (Text.digitChar_facts n hn).2.2.1
  have hfault : hexFault? (Text.hexOfBytes bytes) = none := by
    dsimp only [hexFault?]
    rw [if_neg heven, hdigits]
  dsimp only [make]
  rw [Text.lowerAscii_trim_hexOfBytes, if_neg hsome, hfault]

theorem settled_of_compute {algorithm : Algorithm} {bytes : List UInt8} {d : Digest}
    (h : compute algorithm bytes = .ok d) : d.Settled := by
  have hname : Algorithm.parse Algorithm.sha256.name = .sha256
      ∧ Algorithm.parse Algorithm.blake3.name = .blake3 := by decide +kernel
  have hcolon : ':' ∉ Algorithm.sha256.name.toList ∧ ':' ∉ Algorithm.blake3.name.toList := by decide
  cases algorithm with
  | sha256 =>
      cases h
      exact ⟨hname.1, hcolon.1, make_hexOfBytes _ (Hash.Sha256.length_hash bytes)⟩
  | blake3 =>
      cases h
      exact ⟨hname.2, hcolon.2, make_hexOfBytes _ (Hash.Blake3.length_hash bytes)⟩
  | other name => cases h

/-- The digests that there are. -/
def Obtained (d : Digest) : Prop :=
  (∃ input, parse input = .ok d) ∨ ∃ algorithm bytes, compute algorithm bytes = .ok d

/-- The text of a digest that was read or computed is read as that digest. -/
theorem parse_render_of_obtained {d : Digest} (h : d.Obtained) : parse d.render = .ok d := by
  rcases h with ⟨input, hparse⟩ | ⟨algorithm, bytes, hcompute⟩
  · exact (settled_of_parse hparse).parse_render
  · exact (settled_of_compute hcompute).parse_render

end Digest

end Clearance
