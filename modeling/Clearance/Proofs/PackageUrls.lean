/-
Package URLs: what is read from a text that was written, and what is
written of a text that was read.

# Where a text is cut

Reading cuts at the first slash, at the last at sign and at the last slash
before it. Nothing is escaped in writing, so the cuts have to be found
again from the parts alone:

- The part before the first slash is the name of an ecosystem.
- A version without an at sign stands after the last one. Where there is
  no version, the last at sign belongs to the path, and it stays there
  only if it starts a segment of it (`splitVersion_eq_self_iff`).
- A name without a slash stands after the last one.

So coordinates whose parts are plain enough (`Addressable`) are read as
they were written if they have a version, and otherwise exactly if the last
at sign of their path starts a segment (`parsePurl_purl_iff`).

# What reading makes

What is read has no question mark and no hash, its version has no at sign
and its name no slash, so that it is addressable if nothing is lost
(`addressable_of_parsePurl`). But parts that must not be empty are looked
at before the blanks around them are taken away, so that a name or a
namespace can come out empty; and an at sign at the very end is read as one
before an empty version, though another one may stand in the name. Such
coordinates are not read as they are written.
-/
import Clearance.Identity.PackageUrl
import Clearance.Proofs.Digests

namespace Clearance

namespace Text

-- ============================================================ splitting

theorem splitLast_of_notMem {x : Char} {cs : List Char} (h : x ∉ cs) :
    splitLast (· == x) cs = none := by
  induction cs with
  | nil => rfl
  | cons c cs ih =>
      rw [List.mem_cons, not_or] at h
      simp [splitLast, ih h.2, Ne.symm h.1]

theorem splitLast_append {x : Char} (before : List Char) {after : List Char} (h : x ∉ after) :
    splitLast (· == x) (before ++ x :: after) = some (before, after) := by
  induction before with
  | nil => simp [splitLast, splitLast_of_notMem h]
  | cons d before ih => simp [splitLast, ih]

/-- A text does not have a character, or falls apart where it is last. -/
theorem notMem_or_eq_append (x : Char) (cs : List Char) :
    x ∉ cs ∨ ∃ before after, cs = before ++ x :: after ∧ x ∉ after := by
  induction cs with
  | nil => exact Or.inl List.not_mem_nil
  | cons c cs ih =>
      rcases ih with hnone | ⟨before, after, rfl, hafter⟩
      · by_cases hc : x = c
        · exact Or.inr ⟨[], cs, by rw [hc]; rfl, hnone⟩
        · exact Or.inl (by simp [hc, hnone])
      · exact Or.inr ⟨c :: before, after, rfl, hafter⟩

theorem dropStart?_append (start cs : List Char) : dropStart? start (start ++ cs) = some cs := by
  induction start with
  | nil => rfl
  | cons c start ih => simp [dropStart?, ih]

-- ============================================================= trimming

theorem length_trimChars_le (cs : List Char) : (trimChars cs).length ≤ cs.length :=
  (List.rdropWhile_prefix isBlank _).length_le.trans (List.dropWhile_sublist _).length_le

theorem isBlank_getLast_of_trimChars {cs : List Char} (h : trimChars cs = cs) :
    ∀ c ∈ cs.getLast?, isBlank c = false := by
  intro c hc
  rw [← h] at hc
  have hne : trimChars cs ≠ [] := by
    intro hnil
    simp [hnil] at hc
  have hlast := List.rdropWhile_last_not isBlank (trimStartChars cs) hne
  rw [List.getLast?_eq_some_getLast hne] at hc
  obtain rfl := Option.some.inj hc
  exact Bool.eq_false_iff.2 hlast

/-- A text of blanks is the only one of which nothing is left. -/
theorem forall_isBlank_of_trimChars_eq_nil {cs : List Char} (h : trimChars cs = []) :
    ∀ c ∈ cs, isBlank c = true := by
  have hrest : ∀ c ∈ trimStartChars cs, isBlank c = true := List.rdropWhile_eq_nil_iff.1 h
  have hnone : (cs.dropWhile isBlank).dropWhile isBlank = [] := List.dropWhile_eq_nil_iff.2 hrest
  rw [List.dropWhile_idempotent] at hnone
  exact List.dropWhile_eq_nil_iff.1 hnone

end Text

namespace Coordinate

-- ================================================================ paths

/-- A segment of a path starts after these characters. -/
def StartsSegment (before : List Char) : Prop := before = [] ∨ before.getLast? = some '/'

/-- Every at sign of a path starts a segment. -/
def AtsLead (cs : List Char) : Prop :=
  ∀ before after, cs = before ++ '@' :: after → StartsSegment before

/-- The last at sign of a path, if there is one, starts a segment. -/
def LastAtLeads (cs : List Char) : Prop :=
  ∀ before after, cs = before ++ '@' :: after → '@' ∉ after → StartsSegment before

instance (before : List Char) : Decidable (StartsSegment before) :=
  inferInstanceAs (Decidable (_ ∨ _))

/-- Whether every at sign leads can be told from what stands before each. -/
instance (cs : List Char) : Decidable (AtsLead cs) :=
  decidable_of_iff (∀ n < cs.length, cs[n]? = some '@' → StartsSegment (cs.take n)) <| by
    constructor
    · rintro h before after rfl
      simpa using h before.length (by simp) (by simp)
    · intro h n hn hat
      have hdrop := List.drop_eq_getElem_cons hn
      rw [List.getElem?_eq_getElem hn, Option.some.injEq] at hat
      rw [hat] at hdrop
      refine h _ (cs.drop (n + 1)) ?_
      rw [← hdrop, List.take_append_drop]

theorem AtsLead.lastAtLeads {cs : List Char} (h : AtsLead cs) : LastAtLeads cs :=
  fun before after hcs _ => h before after hcs

theorem splitVersion_of_notMem {cs : List Char} (h : '@' ∉ cs) : splitVersion cs = (cs, []) := by
  rw [splitVersion, Text.splitLast_of_notMem h]

/-- What is before the last at sign is cut off from the version after it,
unless the sign starts a segment. -/
theorem splitVersion_append {before after : List Char} (h : '@' ∉ after) :
    splitVersion (before ++ '@' :: after)
      = if StartsSegment before then (before ++ '@' :: after, []) else (before, after) := by
  have hstarts : (before.isEmpty || before.getLast? == some '/')
      = decide (StartsSegment before) := by
    rw [Bool.eq_iff_iff, decide_eq_true_eq]
    simp [StartsSegment]
  rw [splitVersion, Text.splitLast_append before h]
  simp only [hstarts, decide_eq_true_eq]

theorem splitSpace_of_notMem {cs : List Char} (h : '/' ∉ cs) : splitSpace cs = ([], cs) := by
  rw [splitSpace, Text.splitLast_of_notMem h, Option.getD_none]

theorem splitSpace_append (space : List Char) {name : List Char} (h : '/' ∉ name) :
    splitSpace (space ++ '/' :: name) = (space, name) := by
  rw [splitSpace, Text.splitLast_append space h, Option.getD_some]

/-- A character at the end of a path belongs to the name. -/
theorem splitSpace_concat {cs space name : List Char} (h : splitSpace cs = (space, name))
    {d : Char} (hd : d ≠ '/') : splitSpace (cs ++ [d]) = (space, name ++ [d]) := by
  rcases Text.notMem_or_eq_append '/' cs with hnone | ⟨before, after, rfl, hafter⟩
  · rw [splitSpace_of_notMem hnone] at h
    obtain ⟨rfl, rfl⟩ := Prod.mk.inj h
    exact splitSpace_of_notMem (by simp [hnone, hd.symm])
  · rw [splitSpace_append _ hafter] at h
    obtain ⟨rfl, rfl⟩ := Prod.mk.inj h
    rw [List.append_assoc, List.cons_append]
    exact splitSpace_append _ (by simp [hafter, hd.symm])

/-- What a path is cut into is taken from it. -/
theorem of_splitVersion {cs path version : List Char} (h : splitVersion cs = (path, version)) :
    '@' ∉ version ∧ path ⊆ cs ∧ version ⊆ cs := by
  rcases Text.notMem_or_eq_append '@' cs with hnone | ⟨before, after, rfl, hafter⟩
  · rw [splitVersion_of_notMem hnone] at h
    obtain ⟨rfl, rfl⟩ := Prod.mk.inj h
    simp
  · rw [splitVersion_append hafter] at h
    split at h
    · obtain ⟨rfl, rfl⟩ := Prod.mk.inj h
      simp
    · obtain ⟨rfl, rfl⟩ := Prod.mk.inj h
      exact ⟨hafter, List.subset_append_left .., fun c hc => by simp [hc]⟩

theorem of_splitSpace {cs space name : List Char} (h : splitSpace cs = (space, name)) :
    '/' ∉ name ∧ space ⊆ cs ∧ name ⊆ cs := by
  rcases Text.notMem_or_eq_append '/' cs with hnone | ⟨before, after, rfl, hafter⟩
  · rw [splitSpace_of_notMem hnone] at h
    obtain ⟨rfl, rfl⟩ := Prod.mk.inj h
    simp [hnone]
  · rw [splitSpace_append before hafter] at h
    obtain ⟨rfl, rfl⟩ := Prod.mk.inj h
    exact ⟨hafter, List.subset_append_left .., fun c hc => by simp [hc]⟩

-- ============================================================== reading

/-- The coordinate that a path denotes within an ecosystem. -/
def ofPath? (e : Ecosystem) (path : List Char) : Option Coordinate :=
  let (path, version) := splitVersion path
  let (space, name) := splitSpace path
  if name.isEmpty || (e == .maven && space.isEmpty) then none
  else some (ofPath e (String.ofList space) (String.ofList name) (String.ofList version))

/-- A character that ends the part of a package URL that counts. -/
def isMark (c : Char) : Bool := c == '?' || c == '#'

theorem takeWhile_isMark (cs : List Char) :
    cs.takeWhile (fun c => c != '?' && c != '#') = cs.takeWhile fun c => !isMark c := by
  congr 1
  funext c
  simp [isMark, bne]

/-- Once the scheme and the ecosystem of a package URL are found, its path
tells the coordinate. -/
theorem parsePurl_eq_ok_iff {input : String} {rest scheme path : List Char} {e : Ecosystem}
    (hstart : Text.dropStart? "pkg:".toList (Text.trimChars input.toList) = some rest)
    (hfirst : Text.splitFirst (· == '/') (rest.takeWhile fun c => !isMark c)
      = some (scheme, path))
    (hscheme : Ecosystem.parse (String.ofList scheme) = .ok e) {c : Coordinate} :
    parsePurl input = .ok c ↔ ofPath? e path = some c := by
  simp only [parsePurl, hstart, takeWhile_isMark, hfirst, hscheme, bind, Except.bind, ofPath?,
    Bool.or_eq_true, Bool.and_eq_true, List.isEmpty_iff, beq_iff_eq]
  by_cases hname : (splitSpace (splitVersion path).1).2 = []
  · simp [hname]
  · by_cases hspace : e = .maven ∧ (splitSpace (splitVersion path).1).1 = []
    · simp [hname, hspace]
    · simp [hname, hspace]

/-- What is read has a scheme, an ecosystem and a path. -/
theorem exists_of_parsePurl {input : String} {c : Coordinate} (h : parsePurl input = .ok c) :
    ∃ rest scheme path e,
      Text.dropStart? "pkg:".toList (Text.trimChars input.toList) = some rest
        ∧ Text.splitFirst (· == '/') (rest.takeWhile fun c => !isMark c) = some (scheme, path)
        ∧ Ecosystem.parse (String.ofList scheme) = .ok e ∧ ofPath? e path = some c := by
  cases hstart : Text.dropStart? "pkg:".toList (Text.trimChars input.toList) with
  | none => simp only [parsePurl, hstart, reduceCtorEq] at h
  | some rest =>
      cases hfirst : Text.splitFirst (· == '/') (rest.takeWhile fun c => !isMark c) with
      | none => simp only [parsePurl, hstart, takeWhile_isMark, hfirst, reduceCtorEq] at h
      | some parts =>
          obtain ⟨scheme, path⟩ := parts
          cases hscheme : Ecosystem.parse (String.ofList scheme) with
          | error err =>
              simp only [parsePurl, hstart, takeWhile_isMark, hfirst, hscheme, bind, Except.bind,
                reduceCtorEq] at h
          | ok e =>
              exact ⟨rest, scheme, path, e, rfl, hfirst, hscheme,
                (parsePurl_eq_ok_iff hstart hfirst hscheme).1 h⟩

/-- No mark is left in a path. -/
theorem unmarked_of_splitFirst {rest scheme path : List Char}
    (hfirst : Text.splitFirst (· == '/') (rest.takeWhile fun c => !isMark c)
      = some (scheme, path)) : ∀ d ∈ path, isMark d = false := by
  intro d hd
  have heq := (Text.splitFirst_eq_some_iff.1 hfirst).1
  have hmem : d ∈ rest.takeWhile fun c => !isMark c := by
    rw [heq]
    simp [hd]
  simpa using List.mem_takeWhile_imp hmem

-- ============================================================== writing

/-- The path of a package URL: the namespace, if there is one, and the name
under it. -/
def route (c : Coordinate) : List Char :=
  (if c.path.1.isEmpty then [] else c.path.1.toList ++ ['/']) ++ c.path.2.toList

/-- The version at the end of a package URL, if there is one. -/
def ending (c : Coordinate) : List Char :=
  if c.version.isEmpty then [] else '@' :: c.version.toList

theorem toList_purl (c : Coordinate) :
    c.purl.toList
      = "pkg:".toList ++ (c.ecosystem.name.toList ++ '/' :: (c.route ++ c.ending)) := by
  have hpurl : c.purl = "pkg:" ++ c.ecosystem.name ++ "/"
      ++ (if c.path.1.isEmpty then "" else c.path.1 ++ "/") ++ c.path.2
      ++ (if c.version.isEmpty then "" else "@" ++ c.version) := rfl
  rw [hpurl, route, ending]
  cases hspace : c.path.1.isEmpty <;> cases hversion : c.version.isEmpty <;> simp

theorem mem_fields (c : Coordinate) :
    (c.path.1 = "" ∨ c.path.1 ∈ c.fields) ∧ c.path.2 ∈ c.fields ∧ c.version ∈ c.fields := by
  cases c <;> simp [path, version, fields]

/-- Coordinates whose package URL can be taken apart again, but for at signs
in its path. -/
structure Addressable (c : Coordinate) : Prop where
  /-- There are no blanks around the fields. -/
  trimmed : c.trimmed = c
  unmarked : ∀ f ∈ c.fields, ∀ d ∈ f.toList, isMark d = false
  named : c.path.2 ≠ ""
  flat : '/' ∉ c.path.2.toList
  spaced : c.ecosystem = .maven ∨ c.ecosystem = .npm → c.path.1 ≠ ""
  single : '@' ∉ c.version.toList

theorem trim_of_trimmed {c : Coordinate} (h : c.trimmed = c) :
    ∀ f ∈ c.fields, Text.trim f = f := by
  cases c <;> simp_all [trimmed, mapFields, fields]

theorem Addressable.of_mem_parts {c : Coordinate} (h : c.Addressable) {s : String}
    (hs : s ∈ [c.path.1, c.path.2, c.version]) :
    (∀ d ∈ s.toList, isMark d = false) ∧ Text.trimChars s.toList = s.toList := by
  have hmem : s = "" ∨ s ∈ c.fields := by
    obtain ⟨hspace, hname, hversion⟩ := c.mem_fields
    simp only [List.mem_cons, List.not_mem_nil, or_false] at hs
    rcases hs with rfl | rfl | rfl
    · exact hspace
    · exact Or.inr hname
    · exact Or.inr hversion
  rcases hmem with rfl | hfield
  · exact ⟨by simp, rfl⟩
  · refine ⟨h.unmarked s hfield, ?_⟩
    rw [← Text.toList_trim, trim_of_trimmed h.trimmed s hfield]

/-- All characters after the ecosystem count. -/
theorem Addressable.unmarked_path {c : Coordinate} (h : c.Addressable) :
    ∀ d ∈ c.route ++ c.ending, isMark d = false := by
  have hparts : ∀ s ∈ [c.path.1, c.path.2, c.version], ∀ d ∈ s.toList, isMark d = false :=
    fun s hs => (h.of_mem_parts hs).1
  simp only [List.forall_mem_cons] at hparts
  obtain ⟨hspace, hname, hversion, -⟩ := hparts
  rw [List.forall_mem_append]
  constructor
  · rw [route, List.forall_mem_append]
    refine ⟨?_, hname⟩
    split
    · simp
    · exact List.forall_mem_append.2 ⟨hspace, by simp [isMark]⟩
  · unfold ending
    split
    · simp
    · exact List.forall_mem_cons.2 ⟨by decide, hversion⟩

/-- A package URL ends with the version, or with the name if there is no
version. -/
theorem suffix_purl (c : Coordinate) :
    (if c.version.isEmpty then c.path.2 else c.version).toList <:+ c.purl.toList := by
  have hpath : c.route ++ c.ending <:+ c.purl.toList := by
    rw [toList_purl]
    exact ((List.suffix_cons '/' _).trans (List.suffix_append _ _)).trans (List.suffix_append _ _)
  refine List.IsSuffix.trans ?_ hpath
  unfold ending
  split
  · rw [List.append_nil]
    exact List.suffix_append _ _
  · exact (List.suffix_cons '@' _).trans (List.suffix_append _ _)

/-- The last character of a package URL is the last one of a field, so it
is not blank. -/
theorem Addressable.trimChars_purl {c : Coordinate} (h : c.Addressable) :
    Text.trimChars c.purl.toList = c.purl.toList := by
  refine Text.trimChars_eq_self (by simp +decide [toList_purl]) ?_
  obtain ⟨before, heq⟩ := c.suffix_purl
  rw [← heq]
  split
  · have hname : c.path.2.toList ≠ [] := by simpa using h.named
    rw [List.getLast?_append_of_ne_nil _ hname]
    exact Text.isBlank_getLast_of_trimChars (h.of_mem_parts (by simp)).2
  · rename_i hversion
    have hsome : c.version.toList ≠ [] := by simpa using hversion
    rw [List.getLast?_append_of_ne_nil _ hsome]
    exact Text.isBlank_getLast_of_trimChars (h.of_mem_parts (by simp)).2

theorem parse_name (e : Ecosystem) : Ecosystem.parse e.name = .ok e := by
  cases e <;> decide +kernel

/-- The package URL of addressable coordinates is read by its path. -/
theorem Addressable.parsePurl_purl_eq_ok_iff {c d : Coordinate} (h : c.Addressable) :
    parsePurl c.purl = .ok d ↔ ofPath? c.ecosystem (c.route ++ c.ending) = some d := by
  have hplain : c.ecosystem.name.toList.all (fun d => !isMark d && d != '/') = true := by
    cases c.ecosystem <;> decide
  have hname : ∀ d ∈ c.ecosystem.name.toList, isMark d = false ∧ (d == '/') = false := by
    simpa using hplain
  have hstart : Text.dropStart? "pkg:".toList (Text.trimChars c.purl.toList)
      = some (c.ecosystem.name.toList ++ '/' :: (c.route ++ c.ending)) := by
    rw [h.trimChars_purl, toList_purl, Text.dropStart?_append]
  have hall : (c.ecosystem.name.toList ++ '/' :: (c.route ++ c.ending)).takeWhile
      (fun d => !isMark d) = c.ecosystem.name.toList ++ '/' :: (c.route ++ c.ending) := by
    refine List.takeWhile_eq_self_iff.2 fun d hd => ?_
    rw [Bool.not_eq_true']
    rcases List.mem_append.1 hd with hd | hd
    · exact (hname d hd).1
    · rcases List.mem_cons.1 hd with rfl | hd
      · rfl
      · exact h.unmarked_path d hd
  have hfirst : Text.splitFirst (· == '/') (c.ecosystem.name.toList ++ '/' :: (c.route ++ c.ending))
      = some (c.ecosystem.name.toList, c.route ++ c.ending) :=
    Text.splitFirst_append (fun d hd => (hname d hd).2) rfl
  rw [← hall] at hfirst
  exact Coordinate.parsePurl_eq_ok_iff hstart hfirst (by rw [String.ofList_toList, parse_name])

-- =========================================================== round trips

theorem ofPath?_eq_some_iff {e : Ecosystem} {cs path version space name : List Char}
    (hversion : splitVersion cs = (path, version)) (hspace : splitSpace path = (space, name))
    {d : Coordinate} :
    ofPath? e cs = some d ↔ name ≠ [] ∧ (e = .maven → space ≠ [])
      ∧ ofPath e (String.ofList space) (String.ofList name) (String.ofList version) = d := by
  simp only [ofPath?, hversion, hspace, Bool.or_eq_true, Bool.and_eq_true, List.isEmpty_iff,
    beq_iff_eq]
  by_cases hname : name = []
  · simp [hname]
  · by_cases hmaven : e = .maven ∧ space = []
    · simp [hname, hmaven]
    · have hsome : e = .maven → space ≠ [] := fun he hnil => hmaven ⟨he, hnil⟩
      rw [if_neg (by simp [hname, hmaven]), Option.some.injEq]
      exact ⟨fun hd => ⟨hname, hsome, hd⟩, fun hall => hall.2.2⟩

theorem path_ofPath (e : Ecosystem) (space name version : String) :
    (ofPath e space name version).path.2 = Text.trim name
      ∧ (ofPath e space name version).version = Text.trim version := by
  cases e <;> exact ⟨rfl, rfl⟩

/-- Addressable coordinates are those of their parts. -/
theorem Addressable.ofPath_parts {c : Coordinate} (h : c.Addressable) :
    ofPath c.ecosystem c.path.1 c.path.2 c.version = c := by
  refine Eq.trans ?_ h.trimmed
  cases c with
  | javaScript artifact name version =>
      have hname : name ≠ "" := h.spaced (Or.inr rfl)
      have hspace : (if name.isEmpty then artifact else name) = name :=
        if_neg (by simpa using hname)
      exact congrArg (fun space => (Coordinate.javaScript artifact space version).trimmed) hspace
  | _ => rfl

theorem Addressable.splitSpace_route {c : Coordinate} (h : c.Addressable) :
    splitSpace c.route = (c.path.1.toList, c.path.2.toList) := by
  unfold route
  split
  · rename_i hspace
    rw [List.nil_append, splitSpace_of_notMem h.flat]
    simpa using hspace
  · rw [List.append_assoc]
    exact splitSpace_append _ h.flat

/-- Addressable coordinates are read once their path is cut as it was put
together. -/
theorem Addressable.ofPath?_of_splitVersion {c : Coordinate} (h : c.Addressable)
    (hcut : splitVersion (c.route ++ c.ending) = (c.route, c.version.toList)) :
    ofPath? c.ecosystem (c.route ++ c.ending) = some c := by
  refine (ofPath?_eq_some_iff hcut h.splitSpace_route).2 ⟨by simpa using h.named, ?_, ?_⟩
  · intro hmaven
    simpa using h.spaced (Or.inl hmaven)
  · rw [String.ofList_toList, String.ofList_toList, String.ofList_toList, h.ofPath_parts]

theorem Addressable.not_startsSegment_route {c : Coordinate} (h : c.Addressable) :
    ¬ StartsSegment c.route := by
  have hname : c.path.2.toList ≠ [] := by simpa using h.named
  rintro (hnil | hlast)
  · exact hname (List.append_eq_nil_iff.1 hnil).2
  · rw [route, List.getLast?_append_of_ne_nil _ hname] at hlast
    exact h.flat (List.mem_of_getLast? hlast)

/-- A path does not end with blanks. -/
theorem Addressable.eq_nil_of_blank {c : Coordinate} (h : c.Addressable)
    {before after : List Char} (hroute : c.route = before ++ after)
    (hblank : Text.trimChars after = []) : after = [] := by
  by_contra hne
  have hlast : c.route.getLast? = c.path.2.toList.getLast? :=
    List.getLast?_append_of_ne_nil _ (by simpa using h.named)
  rw [hroute, List.getLast?_append_of_ne_nil _ hne, List.getLast?_eq_some_getLast hne] at hlast
  have hshown := Text.isBlank_getLast_of_trimChars (h.of_mem_parts (s := c.path.2) (by simp)).2
    _ hlast.symm
  rw [Text.forall_isBlank_of_trimChars_eq_nil hblank _ (List.getLast_mem hne)] at hshown
  exact absurd hshown (by simp)

/-- If the last at sign of the path does not start a segment, other
coordinates are read: they have a version, or a shorter name. -/
theorem Addressable.lastAtLeads_of_ofPath? {c : Coordinate} (h : c.Addressable)
    (hversion : c.version = "") (hread : ofPath? c.ecosystem c.route = some c) :
    LastAtLeads c.route := by
  intro before after hroute hafter
  by_contra hstarts
  have hcut : splitVersion c.route = (before, after) := by
    rw [hroute, splitVersion_append hafter, if_neg hstarts]
  obtain ⟨space, name, hspace⟩ : ∃ space name, splitSpace before = (space, name) := ⟨_, _, rfl⟩
  obtain ⟨-, -, hsame⟩ := (ofPath?_eq_some_iff hcut hspace).1 hread
  obtain ⟨hname, hnone⟩ := path_ofPath c.ecosystem (String.ofList space) (String.ofList name)
    (String.ofList after)
  rw [hsame] at hname hnone
  -- without a version the at sign is at the very end, and belongs to the name
  have hblank : Text.trimChars after = [] := by simpa [Text.trim, hversion] using hnone.symm
  obtain rfl : after = [] := by
    have hend : c.route = (before ++ ['@']) ++ after := by
      rw [hroute, List.append_assoc]
      rfl
    exact h.eq_nil_of_blank hend hblank
  have hlonger := splitSpace_concat hspace (d := '@') (by decide)
  rw [← hroute, h.splitSpace_route] at hlonger
  have hlength : (name ++ ['@']).length ≤ name.length := by
    rw [← (Prod.mk.inj hlonger).2, hname, Text.toList_trim, String.toList_ofList]
    exact Text.length_trimChars_le name
  rw [List.length_append] at hlength
  exact absurd hlength (by simp)

/-- Addressable coordinates are read as they were written exactly if they
have a version or the last at sign of their path starts a segment. -/
theorem Addressable.parsePurl_purl_iff {c : Coordinate} (h : c.Addressable) :
    parsePurl c.purl = .ok c ↔ c.version ≠ "" ∨ LastAtLeads c.route := by
  rw [h.parsePurl_purl_eq_ok_iff]
  by_cases hversion : c.version = ""
  · have hending : c.route ++ c.ending = c.route := by simp [ending, hversion]
    constructor
    · intro hread
      rw [hending] at hread
      exact Or.inr (h.lastAtLeads_of_ofPath? hversion hread)
    · rintro (hne | hleads)
      · exact absurd hversion hne
      · refine h.ofPath?_of_splitVersion ?_
        rw [hending, hversion]
        rcases Text.notMem_or_eq_append '@' c.route with hnone | ⟨before, after, heq, hafter⟩
        · exact splitVersion_of_notMem hnone
        · rw [heq, splitVersion_append hafter, if_pos (hleads before after heq hafter)]
          rfl
  · have hending : c.ending = '@' :: c.version.toList := by simp [ending, hversion]
    refine iff_of_true (h.ofPath?_of_splitVersion ?_) (Or.inl hversion)
    rw [hending, splitVersion_append h.single, if_neg h.not_startsSegment_route]

-- ============================================= coordinates that were made

theorem AtsLead.append_slash {space name : List Char} (hspace : AtsLead space)
    (hname : AtsLead name) : AtsLead (space ++ '/' :: name) := by
  intro before after heq
  rcases List.append_eq_append_iff.1 heq with ⟨front, rfl, hrest⟩ | ⟨front, rfl, hrest⟩
  · -- the at sign comes after the namespace
    cases front with
    | nil => exact absurd hrest (by simp)
    | cons d front =>
        obtain ⟨rfl, hname'⟩ := List.cons.inj hrest
        rcases hname front after hname' with rfl | hlast
        · exact Or.inr (by simp)
        · refine Or.inr ?_
          rw [List.getLast?_append_cons, List.getLast?_cons, hlast, Option.getD_some]
  · -- the at sign is in the namespace
    cases front with
    | nil => exact absurd hrest (by simp)
    | cons d front =>
        obtain ⟨rfl, -⟩ := List.cons.inj hrest
        exact hspace before front rfl

theorem lastAtLeads_route {c : Coordinate} (hspace : AtsLead c.path.1.toList)
    (hname : AtsLead c.path.2.toList) : LastAtLeads c.route := by
  refine AtsLead.lastAtLeads ?_
  unfold route
  split
  · exact hname
  · rw [List.append_assoc]
    exact hspace.append_slash hname

/-- Coordinates whose parts keep the signs of package URLs in their places. -/
structure Plain (c : Coordinate) : Prop where
  unmarked : ∀ f ∈ c.fields, '?' ∉ f.toList ∧ '#' ∉ f.toList
  named : c.path.2 ≠ ""
  flat : '/' ∉ c.path.2.toList
  spaced : c.ecosystem = .maven ∨ c.ecosystem = .npm → c.path.1 ≠ ""
  /-- A version has no at sign; without one, those of the path lead. -/
  version : c.version ≠ "" ∧ '@' ∉ c.version.toList
    ∨ c.version = "" ∧ AtsLead c.path.1.toList ∧ AtsLead c.path.2.toList

theorem trimmed_trimmed (c : Coordinate) : c.trimmed.trimmed = c.trimmed := by
  cases c <;> simp [trimmed, mapFields, Text.trim_trim]

theorem Plain.addressable {raw : Coordinate} (h : raw.trimmed.Plain) :
    raw.trimmed.Addressable where
  trimmed := raw.trimmed_trimmed
  unmarked f hf d hd := by
    obtain ⟨hquestion, hhash⟩ := h.unmarked f hf
    rw [isMark, Bool.or_eq_false_iff, beq_eq_false_iff_ne, beq_eq_false_iff_ne]
    exact ⟨fun heq => hquestion (heq ▸ hd), fun heq => hhash (heq ▸ hd)⟩
  named := h.named
  flat := h.flat
  spaced := h.spaced
  single := by
    rcases h.version with ⟨-, hsingle⟩ | ⟨hnone, -⟩
    · exact hsingle
    · simp [hnone]

/-- Coordinates that were made by trimming their fields are read from their
package URL, if their parts are plain: no field has a question mark or a
hash, the name has something in it and no slash, Maven and npm packages
have a namespace, and the version has no at sign or, if there is none,
neither namespace nor name has one that does not start a segment. -/
theorem parsePurl_purl_of_plain (raw : Coordinate) (h : raw.trimmed.Plain) :
    parsePurl raw.trimmed.purl = .ok raw.trimmed := by
  refine h.addressable.parsePurl_purl_iff.2 ?_
  rcases h.version with ⟨hsome, -⟩ | ⟨-, hspace, hname⟩
  · exact Or.inl hsome
  · exact Or.inr (lastAtLeads_route hspace hname)

/-- A package of npm in a nested scope, made with blanks and without a
version. -/
theorem parsePurl_purl_of_plain_scoped :
    parsePurl (trimmed (.javaScript " @core" "@scope/a b/@pkg\n" " ")).purl
      = .ok (.javaScript "@core" "@scope/a b/@pkg" "") := by
  refine parsePurl_purl_of_plain (.javaScript " @core" "@scope/a b/@pkg\n" " ") ?_
  exact ⟨by decide +kernel, by decide +kernel, by decide +kernel, by decide +kernel,
    Or.inr (by decide +kernel)⟩

-- ============================================= coordinates that were read

theorem eq_trim_of_mem_fields_ofPath {e : Ecosystem} {space name version f : String}
    (hf : f ∈ (ofPath e space name version).fields) :
    ∃ s ∈ [space, name, version], f = Text.trim s := by
  cases e with
  | maven => simpa [ofPath, trimmed, mapFields, fields] using hf
  | npm =>
      simp only [ofPath, trimmed, mapFields, fields, List.mem_cons, List.not_mem_nil,
        or_false] at hf
      rcases hf with rfl | rfl | rfl
      · exact ⟨name, by simp, rfl⟩
      · split
        · exact ⟨name, by simp, rfl⟩
        · exact ⟨space, by simp, rfl⟩
      · exact ⟨version, by simp, rfl⟩
  | _ =>
      simp only [ofPath, trimmed, mapFields, fields, List.mem_cons, List.not_mem_nil,
        or_false] at hf
      rcases hf with rfl | rfl
      · exact ⟨name, by simp, rfl⟩
      · exact ⟨version, by simp, rfl⟩

/-- What the parts of a path are made into is addressable, unless a name or
a namespace is lost. -/
theorem addressable_ofPath {e : Ecosystem} {space name version : List Char}
    (hmarks : ∀ cs ∈ [space, name, version], ∀ d ∈ cs, isMark d = false) (hflat : '/' ∉ name)
    (hsingle : '@' ∉ version) {c : Coordinate}
    (hc : ofPath e (String.ofList space) (String.ofList name) (String.ofList version) = c)
    (hnamed : c.path.2 ≠ "")
    (hspaced : c.ecosystem = .maven ∨ c.ecosystem = .npm → c.path.1 ≠ "") : c.Addressable := by
  have hkept : ∀ (cs : List Char) d, d ∈ (Text.trim (String.ofList cs)).toList → d ∈ cs := by
    intro cs d hd
    rw [Text.toList_trim, String.toList_ofList] at hd
    exact Text.mem_of_mem_trimChars hd
  obtain ⟨hname, hversion⟩ := path_ofPath e (String.ofList space) (String.ofList name)
    (String.ofList version)
  rw [hc] at hname hversion
  refine ⟨?_, fun f hf d hd => ?_, hnamed, ?_, hspaced, ?_⟩
  · rw [← hc]
    exact trimmed_trimmed _
  · rw [← hc] at hf
    obtain ⟨s, hs, rfl⟩ := eq_trim_of_mem_fields_ofPath hf
    simp only [List.mem_cons, List.not_mem_nil, or_false] at hs
    rcases hs with rfl | rfl | rfl
    · exact hmarks space (by simp) d (hkept _ d hd)
    · exact hmarks name (by simp) d (hkept _ d hd)
    · exact hmarks version (by simp) d (hkept _ d hd)
  · rw [hname]
    exact fun hmem => hflat (hkept _ _ hmem)
  · rw [hversion]
    exact fun hmem => hsingle (hkept _ _ hmem)

theorem addressable_of_parsePurl {input : String} {c : Coordinate} (h : parsePurl input = .ok c)
    (hnamed : c.path.2 ≠ "") (hspaced : c.ecosystem = .maven ∨ c.ecosystem = .npm → c.path.1 ≠ "") :
    c.Addressable := by
  obtain ⟨rest, scheme, path, e, -, hfirst, -, hread⟩ := exists_of_parsePurl h
  have hmarks := unmarked_of_splitFirst hfirst
  obtain ⟨before, version, hversion⟩ : ∃ before version, splitVersion path = (before, version) :=
    ⟨_, _, rfl⟩
  obtain ⟨space, name, hspace⟩ : ∃ space name, splitSpace before = (space, name) := ⟨_, _, rfl⟩
  obtain ⟨-, -, hc⟩ := (ofPath?_eq_some_iff hversion hspace).1 hread
  obtain ⟨hsingle, hbefore, hafter⟩ := of_splitVersion hversion
  obtain ⟨hflat, hfront, hback⟩ := of_splitSpace hspace
  refine addressable_ofPath (fun cs hcs d hd => hmarks d ?_) hflat hsingle hc hnamed hspaced
  simp only [List.mem_cons, List.not_mem_nil, or_false] at hcs
  rcases hcs with rfl | rfl | rfl
  · exact hbefore (hfront hd)
  · exact hbefore (hback hd)
  · exact hafter hd

/-- Not all that is read is read again as it is written. A name that holds
an at sign, with an at sign behind it and no version, is cut the second
time. And a name or a namespace of blanks is lost after it was looked at,
so that the version, the name or nothing is taken for it. -/
theorem unstable_purls :
    (parsePurl "pkg:generic/a@b@" = .ok (.generic "a@b" "")
        ∧ parsePurl (generic "a@b" "").purl = .ok (.generic "a" "b"))
      ∧ (parsePurl "pkg:generic/ @1" = .ok (.generic "" "1")
        ∧ parsePurl (generic "" "1").purl = .ok (.generic "@1" ""))
      ∧ (parsePurl "pkg:npm/ /a@1" = .ok (.javaScript "a" "" "1")
        ∧ parsePurl (javaScript "a" "" "1").purl = .ok (.javaScript "a" "a" "1"))
      ∧ parsePurl "pkg:maven/ /a@1" = .ok (.maven "" "a" "1")
        ∧ (parsePurl (maven "" "a" "1").purl).toOption = none := by
  decide +kernel

/-- Coordinates that were read, with a name and for Maven and npm packages
with a namespace, are read again from their package URL exactly if they
have a version or the last at sign of their path starts a segment. -/
theorem reread_iff_of_parsePurl {input : String} {c : Coordinate} (h : parsePurl input = .ok c)
    (hnamed : c.path.2 ≠ "") (hspaced : c.ecosystem = .maven ∨ c.ecosystem = .npm → c.path.1 ≠ "") :
    parsePurl c.purl = .ok c ↔ c.version ≠ "" ∨ LastAtLeads c.route :=
  (addressable_of_parsePurl h hnamed hspaced).parsePurl_purl_iff

/-- A name with two at signs before a version with a slash, in a namespace
that is dropped, and a name that is cut the second time. -/
theorem reread_iff_of_parsePurl_dropping :
    (parsePurl " pkg:Generic/x@2/@a@b @ 1/2 ?q#s" = .ok (.generic "@a@b" "1/2")
        ∧ parsePurl (generic "@a@b" "1/2").purl = .ok (.generic "@a@b" "1/2"))
      ∧ parsePurl "pkg:generic/a@b@" = .ok (.generic "a@b" "")
        ∧ ¬ LastAtLeads (generic "a@b" "").route := by
  have hspaced : ∀ name version : String, (generic name version).ecosystem = .maven
      ∨ (generic name version).ecosystem = .npm → (generic name version).path.1 ≠ "" := by
    rintro name version (h | h)
    · cases h
    · cases h
  have hkept : parsePurl " pkg:Generic/x@2/@a@b @ 1/2 ?q#s" = .ok (.generic "@a@b" "1/2") := by
    decide +kernel
  have hcut : parsePurl "pkg:generic/a@b@" = .ok (.generic "a@b" "") := by decide +kernel
  refine ⟨⟨hkept, (reread_iff_of_parsePurl hkept (by decide) (hspaced _ _)).2 ?_⟩, hcut, ?_⟩
  · exact Or.inl (by decide)
  · intro hleads
    have hagain := (reread_iff_of_parsePurl hcut (by decide) (hspaced _ _)).2 (Or.inr hleads)
    exact absurd hagain (by decide +kernel)

end Coordinate

end Clearance
