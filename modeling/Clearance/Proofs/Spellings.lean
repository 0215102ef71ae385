/-
What a spelling stands for. All spellings of an index are in one table, the
identifiers among them, and each entry writes its own over what was there.
So the last entry that has a spelling decides what it stands for
(`get?_ids_ofEntries`).

# Identifiers that are lost

An identifier is written as a spelling of itself, and with that it is meant to
stand for itself. But an entry with another identifier may list it among its
spellings. If that entry comes later, the identifier stands for the other one
(`Shelf.identifier_captured`), and what it stands for may have been
captured in the same way, so that looking up twice leads further than looking
up once. There is no other way to lose an identifier: it stands for itself
exactly if every entry that captures it is followed by one that it belongs to
(`get?_ids_ofEntries_id_iff`).
-/
import Clearance.Proofs.Shelves

namespace Clearance

namespace License

/-- The spellings of a license: its identifier and the others. -/
def Entry.spellings (entry : Entry) : List String := entry.id :: entry.aliases

/-- An entry takes a text for a spelling of another identifier. -/
def Entry.Captures (entry : Entry) (spelling : String) : Prop :=
  spelling ∈ entry.aliases ∧ entry.id ≠ spelling

namespace Index

-- ============================================================== writing

theorem get?_ids_foldl_addAlias (aliases : List String) (id : String) (index : Index)
    (spelling : String) :
    (aliases.foldl (fun index other => index.addAlias other id) index).ids.get? spelling
      = if spelling ∈ aliases then some id else index.ids.get? spelling := by
  induction aliases generalizing index with
  | nil => rfl
  | cons other aliases ih =>
      rw [List.foldl_cons, ih, addAlias, Table.get?_insert]
      by_cases hrest : spelling ∈ aliases
      · simp [hrest]
      · simp [hrest]

theorem ids_addLicense (index : Index) (id : String) (name : Option String) :
    (index.addLicense id name).ids = index.ids.insert id id := by
  cases name with
  | none => rfl
  | some name => rfl

/-- An entry writes its spellings, and no others. -/
theorem get?_ids_addEntry (index : Index) (entry : Entry) (spelling : String) :
    (index.addEntry entry).ids.get? spelling
      = if spelling ∈ entry.spellings then some entry.id else index.ids.get? spelling := by
  rw [addEntry, get?_ids_foldl_addAlias, ids_addLicense, Table.get?_insert, Entry.spellings]
  by_cases hid : spelling = entry.id
  · simp [hid]
  · simp [hid]

/-- The last entry that has a spelling. -/
def decisive (entries : List Entry) (spelling : String) : Option Entry :=
  entries.reverse.find? fun entry => entry.spellings.contains spelling

theorem decisive_eq_some_iff {entries : List Entry} {spelling : String} {entry : Entry} :
    decisive entries spelling = some entry ↔ spelling ∈ entry.spellings
      ∧ ∃ before after, entries = before ++ entry :: after
        ∧ ∀ later ∈ after, spelling ∉ later.spellings := by
  unfold decisive
  rw [List.find?_eq_some_iff_append]
  simp only [List.contains_iff_mem, Bool.not_eq_true', ← Bool.not_eq_true]
  refine and_congr_right fun _ => ⟨?_, ?_⟩
  · intro h
    obtain ⟨after, before, hentries, hlater⟩ := h
    have hturned : entries = before.reverse ++ entry :: after.reverse := by
      rw [← List.reverse_reverse entries, hentries]
      simp
    exact ⟨_, _, hturned, fun later hmem => hlater later (List.mem_reverse.1 hmem)⟩
  · intro h
    obtain ⟨before, after, rfl, hlater⟩ := h
    exact ⟨after.reverse, before.reverse, by simp,
      fun later hmem => hlater later (List.mem_reverse.1 hmem)⟩

/-- Of two lists, the second one decides if it can. -/
theorem decisive_append (entries more : List Entry) (spelling : String) :
    decisive (entries ++ more) spelling
      = (decisive more spelling).or (decisive entries spelling) := by
  rw [decisive, List.reverse_append, List.find?_append]
  rfl

/-- A spelling of an entry is decided by some entry. -/
theorem exists_decisive {entries : List Entry} {entry : Entry} (hentry : entry ∈ entries)
    {spelling : String} (h : spelling ∈ entry.spellings) :
    ∃ last, decisive entries spelling = some last := by
  rw [← Option.isSome_iff_exists, decisive, List.find?_isSome]
  exact ⟨entry, List.mem_reverse.2 hentry, List.contains_iff_mem.2 h⟩

/-- What a spelling stands for is what the last entry with it says. -/
theorem get?_ids_ofEntries (entries : List Entry) (spelling : String) :
    (ofEntries entries).ids.get? spelling = (decisive entries spelling).map Entry.id := by
  unfold ofEntries decisive
  induction entries using List.reverseRecOn with
  | nil => rfl
  | append_singleton entries entry ih =>
      rw [List.foldl_append, List.foldl_cons, List.foldl_nil, get?_ids_addEntry, ih,
        List.reverse_append, List.reverse_singleton, List.singleton_append, List.find?_cons]
      by_cases hmem : spelling ∈ entry.spellings
      · simp [hmem]
      · simp [hmem]

-- ========================================================== identifiers

/-- What a spelling stands for stands for itself, so that nothing is gained by
looking it up as well. -/
def Canonical (index : Index) : Prop :=
  ∀ spelling id, index.ids.get? spelling = some id → index.ids.get? id = some id

theorem canonical_iff {index : Index} :
    index.Canonical ↔ ∀ e ∈ index.ids.entries, index.ids.get? e.2 = some e.2 := by
  unfold Canonical
  simp only [Table.get?_eq_some_iff, Prod.forall]

instance (index : Index) : Decidable index.Canonical := decidable_of_iff _ canonical_iff.symm

/-- An identifier of an entry stands for itself exactly if after every entry that
captures it there is one that it belongs to. -/
theorem get?_ids_ofEntries_id_iff {entries : List Entry} {entry : Entry}
    (hentry : entry ∈ entries) :
    (ofEntries entries).ids.get? entry.id = some entry.id ↔
      ∀ before other after, entries = before ++ other :: after → other.Captures entry.id →
        ∃ later ∈ after, later.id = entry.id := by
  have hown : entry.id ∈ entry.spellings := List.mem_cons_self ..
  obtain ⟨last, hlast⟩ := exists_decisive hentry hown
  obtain ⟨hspells, front, back, hsplit, hback⟩ := decisive_eq_some_iff.1 hlast
  rw [get?_ids_ofEntries, hlast, Option.map_some, Option.some.injEq]
  constructor
  · intro hid before other after hentries hcaptures
    have hcaptor : decisive [other] entry.id = some other :=
      decisive_eq_some_iff.2 ⟨List.mem_cons_of_mem _ hcaptures.1, [], [], rfl, by simp⟩
    rw [hentries, decisive_append, ← List.singleton_append, decisive_append, hcaptor] at hlast
    cases hafter : decisive after entry.id with
    | none =>
        rw [hafter] at hlast
        obtain rfl := Option.some.inj hlast
        exact absurd hid hcaptures.2
    | some later =>
        rw [hafter] at hlast
        obtain rfl := Option.some.inj hlast
        exact ⟨later, List.mem_reverse.1 (List.mem_of_find?_eq_some hafter), hid⟩
  · intro h
    by_contra hother
    have halias : entry.id ∈ last.aliases :=
      (List.mem_cons.1 hspells).resolve_left fun heq => hother heq.symm
    obtain ⟨later, hlater, hid⟩ := h front last back hsplit ⟨halias, hother⟩
    exact hback later hlater (hid ▸ List.mem_cons_self ..)

/-- Whatever is stood for is the identifier of an entry. -/
theorem exists_of_get?_ids_ofEntries {entries : List Entry} {spelling id : String}
    (h : (ofEntries entries).ids.get? spelling = some id) : ∃ entry ∈ entries, entry.id = id := by
  rw [get?_ids_ofEntries] at h
  obtain ⟨entry, hlast, hid⟩ := Option.map_eq_some_iff.1 h
  exact ⟨entry, List.mem_reverse.1 (List.mem_of_find?_eq_some hlast), hid⟩

/-- The last entry that has a spelling decides what it stands for. So the
identifier of an entry stands for itself exactly if after every entry that
captures it there is one that it belongs to; as long as no entry captures the
identifier of another, all do. Where all do, looking up twice is looking up
once. -/
theorem ids_ofEntries_decided (entries : List Entry) :
    (∀ spelling id, (ofEntries entries).ids.get? spelling = some id ↔
        ∃ before entry after, entries = before ++ entry :: after ∧ spelling ∈ entry.spellings
          ∧ entry.id = id ∧ ∀ later ∈ after, spelling ∉ later.spellings)
      ∧ (∀ entry ∈ entries, (ofEntries entries).ids.get? entry.id = some entry.id ↔
          ∀ before other after, entries = before ++ other :: after → other.Captures entry.id →
            ∃ later ∈ after, later.id = entry.id)
      ∧ ((∀ entry ∈ entries, ∀ other ∈ entries, ¬ other.Captures entry.id) →
          ∀ entry ∈ entries, (ofEntries entries).ids.get? entry.id = some entry.id)
      ∧ ((∀ entry ∈ entries, (ofEntries entries).ids.get? entry.id = some entry.id) →
          (ofEntries entries).Canonical) := by
  refine ⟨fun spelling id => ?_, fun entry hentry => get?_ids_ofEntries_id_iff hentry,
    fun h entry hentry => ?_, fun h spelling id hid => ?_⟩
  · rw [get?_ids_ofEntries, Option.map_eq_some_iff]
    simp only [decisive_eq_some_iff]
    constructor
    · intro hdecided
      obtain ⟨entry, ⟨hspells, before, after, hentries, hlater⟩, hid⟩ := hdecided
      exact ⟨before, entry, after, hentries, hspells, hid, hlater⟩
    · intro hdecided
      obtain ⟨before, entry, after, hentries, hspells, hid, hlater⟩ := hdecided
      exact ⟨entry, ⟨hspells, before, after, hentries, hlater⟩, hid⟩
  · rw [get?_ids_ofEntries_id_iff hentry]
    intro before other after hentries hcaptures
    have hother : other ∈ entries := hentries ▸ List.mem_append_right before (List.mem_cons_self ..)
    exact absurd hcaptures (h entry hentry other hother)
  · obtain ⟨entry, hentry, rfl⟩ := exists_of_get?_ids_ofEntries hid
    exact h entry hentry

/-- Three licenses, of which each but the first has the identifier of the one
before it among its spellings. -/
def succeeding : List Entry :=
  [⟨"GPL-2.0", none, []⟩, ⟨"GPL-2.0-only", none, ["GPL-2.0"]⟩,
    ⟨"GPL-2.0-or-later", none, ["GPL-2.0-only"]⟩]

/-- Where the first license comes again it stands for itself, and the second one
does not. -/
theorem ids_ofEntries_decided_again :
    (ofEntries (succeeding ++ [⟨"GPL-2.0", none, []⟩])).ids.get? "GPL-2.0" = some "GPL-2.0"
      ∧ (ofEntries (succeeding ++ [⟨"GPL-2.0", none, []⟩])).ids.get? "GPL-2.0-only"
        ≠ some "GPL-2.0-only" := by
  obtain ⟨hdecides, hself, -⟩ := ids_ofEntries_decided (succeeding ++ [⟨"GPL-2.0", none, []⟩])
  refine ⟨(hdecides _ _).2 ⟨succeeding, ⟨"GPL-2.0", none, []⟩, [], rfl, by decide, rfl, by simp⟩,
    fun hkept => ?_⟩
  have hsecond := (hself ⟨"GPL-2.0-only", none, ["GPL-2.0"]⟩ (by decide)).1 hkept
  obtain ⟨later, hlater, hid⟩ := hsecond (succeeding.take 2) _ _ rfl ⟨by decide, by decide⟩
  obtain rfl := List.mem_singleton.1 hlater
  exact absurd hid (by decide)

end Index

end License

namespace Shelf

open Storage (Files)

/-- A folder with an index of these licenses. -/
def succeedingFiles : Files :=
  let index := "licenses:\n- id: GPL-2.0\n- id: GPL-2.0-only\n  aliases: [GPL-2.0]\n"
    ++ "- id: GPL-2.0-or-later\n  aliases: [GPL-2.0-only]\n"
  (Files.empty.write? indexFile index).getD .empty

/-- The first license does not stand for itself, and the one that it stands for
does not either. -/
theorem identifier_captured :
    ofFiles succeedingFiles = .ok ⟨⟨""⟩, .ofEntries License.Index.succeeding, ∅⟩
      ∧ ((Action.spelling "GPL-2.0").perform
          ⟨succeedingFiles, ⟨⟨""⟩, .ofEntries License.Index.succeeding, ∅⟩⟩).1
        = .id (some "GPL-2.0-only")
      ∧ ((Action.spelling "GPL-2.0-only").perform
          ⟨succeedingFiles, ⟨⟨""⟩, .ofEntries License.Index.succeeding, ∅⟩⟩).1
        = .id (some "GPL-2.0-or-later") := by
  have hentries : (succeedingFiles.disk.read? (Storage.Path.join ⟨""⟩ indexFile)).bind
      (fun text => (Yaml.readFor? indexShape text).bind entriesOf?)
      = some License.Index.succeeding := by
    decide +kernel
  exact ⟨openAt_eq_ok hentries, by decide +kernel, by decide +kernel⟩

end Shelf

end Clearance
