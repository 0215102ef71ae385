/-
Written forms and what is read from them. Everything that a fact consists
of has a written form, and reading it gives the same again.

# Conditions

Most values are read as they are, whatever they hold. `Storable` says where
something is asked of a value, and it is asked of what the program itself
makes sure of:

- A digest was read or computed; its text is settled then
  (`Digest.parse_render_of_obtained`).
- The criteria of a selector are in order, as `Selector.ofList` leaves them.
- The severity of an issue is finite, since other numbers have no written
  form.
- The records in a value of a custom fact have their fields in order.

# The argument

A record is read field by field. What a field holds is read as it was
written, and a field that may be left out is there exactly if it has a
value, so that looking it up gives this value or nothing
(`optional?_of_lookup`). A list is read item by item (`listOf?_map`), and
an expression by induction, within a statement or by itself.

A fact is a record with one field, whose name tells the variant of the
fact: all coordinates share one name, and so do all custom facts. From any
other name the kind can be found again (`Kind.ofTag?_tag`), so that facts
of two kinds are never written alike.
-/
import Clearance.Proofs.Canonical
import Clearance.Proofs.Digests
import Clearance.Proofs.Reloading

namespace Clearance

open Readable

-- ============================================================== reading

namespace Readable

/-- Values that are written alike and read are the same, as far as reading
tells them. -/
theorem eq_of_read {α β γ : Type} {write : α → β} {read : β → Option γ} {told : α → γ}
    (h : ∀ x, read (write x) = some (told x)) {x y : α} (hxy : write x = write y) :
    told x = told y := by
  have hread := h x
  rw [hxy, h y] at hread
  exact (Option.some.inj hread).symm

/-- A list is read item by item. -/
theorem listOf?_map {α : Type} {read : Json → Option α} {write : α → Json} {xs : List α}
    (h : ∀ x ∈ xs, read (write x) = some x) :
    listOf? read (Json.list (xs.map write)) = some xs := by
  show (xs.map write).mapM read = some xs
  induction xs with
  | nil => rfl
  | cons x xs ih =>
      rw [List.forall_mem_cons] at h
      rw [List.map_cons, List.mapM_cons, h.1, ih h.2]
      rfl

/-- A field that is there exactly if it has a value, and holds no null, is
read as what it has. -/
theorem optional?_of_lookup {α : Type} {read : Json → Option α} {write : α → Json}
    {fields : List (String × Json)} {name : String} {o : Option α}
    (hlookup : fields.lookup name = o.map write)
    (hread : ∀ x, o = some x → (write x).isNull = false ∧ read (write x) = some x) :
    optional? read fields name = some o := by
  unfold optional?
  rw [hlookup]
  cases o with
  | none => rfl
  | some x =>
      obtain ⟨hvalue, hx⟩ := hread x rfl
      show (if (write x).isNull = true then some none else (read (write x)).map some) = _
      rw [hvalue, hx]
      rfl

theorem optional?_text {fields : List (String × Json)} {name : String} {o : Option String}
    (hlookup : fields.lookup name = o.map Json.text) :
    optional? text? fields name = some o :=
  optional?_of_lookup hlookup fun _ _ => ⟨rfl, rfl⟩

end Readable

-- =========================================================== expressions

theorem License.lookup_toFields (l : License) :
    l.toFields.lookup "common-name" = l.commonName.map Json.text
      ∧ l.toFields.lookup "text" = l.text.map Json.text := by
  obtain ⟨id, commonName, text⟩ := l
  cases commonName <;> cases text <;> exact ⟨rfl, rfl⟩

/-- Beside the kind of an expression, the fields of a license are read as
that license. -/
theorem License.ofFields?_toFields (l : License) :
    License.ofFields? (("type", Json.text "leaf") :: l.toFields) = some l := by
  obtain ⟨hname, htext⟩ := l.lookup_toFields
  have hcommon : optional? text? (("type", Json.text "leaf") :: l.toFields) "common-name"
      = some l.commonName := optional?_text hname
  have hlong : optional? text? (("type", Json.text "leaf") :: l.toFields) "text" = some l.text :=
    optional?_text htext
  have hid : required? text? (("type", Json.text "leaf") :: l.toFields) "id" = some l.id := rfl
  simp only [License.ofFields?, hid, hcommon, hlong, Option.bind_eq_bind, Option.bind_some]

namespace Operator

theorem ofValue?_toJson (op : Operator) : ofValue? op.toJson = some op := by
  cases op <;> rfl

theorem inExpression?_toJson (op : Operator) : inExpression? op.toJson = some op := by
  cases op <;> rfl

theorem toJson_injective {op op' : Operator} (h : op.toJson = op'.toJson) : op = op' :=
  eq_of_read ofValue?_toJson h

end Operator

namespace Expression

/-- An expression is read as it was written, by itself or as a part. -/
theorem ofPart?_toJson (within : Bool) (e : Expression) : ofPart? within e.toJson = some e := by
  induction e generalizing within with
  | empty => rfl
  | leaf l =>
      have hlicense := l.ofFields?_toFields
      rw [toJson, ofPart?]
      show (License.ofFields? (("type", Json.text "leaf") :: l.toFields)).map leaf = _
      rw [hlicense]
      rfl
  | statement op left right ihleft ihright =>
      have hop : required? Operator.inExpression? [("type", Json.text "statement"),
          ("operator", op.toJson), ("left", left.toJson), ("right", right.toJson)] "operator"
          = some op := op.inExpression?_toJson
      have hparts : ofFields [("type", Json.text "statement"), ("operator", op.toJson),
          ("left", left.toJson), ("right", right.toJson)]
          = [("type", none), ("operator", ofPart? true op.toJson), ("left", some left),
            ("right", some right)] := by
        simp only [ofFields, ihleft, ihright]
        rfl
      have hkind : required? (kind? within) [("type", Json.text "statement"),
          ("operator", op.toJson), ("left", left.toJson), ("right", right.toJson)] "type"
          = some "statement" := rfl
      rw [toJson, ofPart?]
      simp only [hkind, hop, hparts]
      rfl

theorem ofJson?_toJson (e : Expression) : ofJson? e.toJson = some e := e.ofPart?_toJson false

end Expression

-- ========================================================== identifiers

namespace Coordinate

theorem ofJson?_toJson (c : Coordinate) : ofJson? c.toJson = some c := by
  cases c <;> rfl

theorem toJson_injective {c d : Coordinate} (h : c.toJson = d.toJson) : c = d :=
  eq_of_read ofJson?_toJson h

end Coordinate

namespace FileEntry

/-- The digest of an entry was read or computed. -/
def Storable (e : FileEntry) : Prop := ∀ d, e.digest = some d → d.Obtained

/-- The fields of an entry that are there. -/
theorem exists_fields (e : FileEntry) : ∃ fields, e.toJson = .record fields
    ∧ record? false ["filename", "digest"] e.toJson = some fields
    ∧ fields.lookup "filename" = e.filename.map Json.text
    ∧ fields.lookup "digest" = e.digest.map fun d => Json.text d.render := by
  obtain ⟨filename, digest⟩ := e
  refine ⟨_, rfl, ?_⟩
  cases filename <;> cases digest <;> exact ⟨rfl, rfl, rfl⟩

theorem ofValue?_toJson {e : FileEntry} (h : e.Storable) : ofValue? e.toJson = some e := by
  obtain ⟨fields, -, hfields, hname, hdigest⟩ := e.exists_fields
  have hread : ∀ d, e.digest = some d → (Json.text d.render).isNull = false
      ∧ Digest.ofValue? (Json.text d.render) = some d := by
    intro d hd
    refine ⟨rfl, ?_⟩
    show (Digest.parse d.render).toOption = some d
    rw [Digest.parse_render_of_obtained (h d hd)]
    rfl
  simp only [ofValue?, hfields, optional?_text hname, optional?_of_lookup hdigest hread,
    Option.bind_eq_bind, Option.bind_some]

end FileEntry

namespace Identifier

/-- The entry of a file is storable, coordinates always are. -/
def Storable : Identifier → Prop
  | .coordinate _ => True
  | .file e => e.Storable

theorem ofJson?_toJson {id : Identifier} (h : id.Storable) : ofJson? id.toJson = some id := by
  cases id with
  | coordinate c =>
      show (Coordinate.ofJson? c.toJson).map coordinate = _
      rw [c.ofJson?_toJson]
      rfl
  | file e =>
      show (FileEntry.ofValue? e.toJson).map file = _
      rw [FileEntry.ofValue?_toJson h]
      rfl

theorem canonical_canonical (ids : List Identifier) :
    canonical (canonical ids) = canonical ids :=
  canonical_congr fun _ => mem_sortDistinct strictOrder_before

end Identifier

namespace Selector

/-- The criteria are in order, and each of them is storable. -/
def Storable (s : Selector) : Prop :=
  (∃ ids, s = ofList ids) ∧ ∀ id ∈ s.criteria, id.Storable

theorem ofJson?_toJson {s : Selector} (h : s.Storable) : ofJson? s.toJson = some s := by
  obtain ⟨⟨ids, rfl⟩, hids⟩ := h
  have hcriteria : listOf? Identifier.ofJson? (ofList ids).toJson = some (ofList ids).criteria :=
    listOf?_map fun id hid => Identifier.ofJson?_toJson (hids id hid)
  rw [ofJson?, hcriteria]
  exact congrArg (fun ids => some (Selector.mk ids)) (Identifier.canonical_canonical ids)

end Selector

-- =============================================================== issues

namespace Issue

/-- The fields of an issue that are there. -/
theorem exists_fields (i : Issue) : ∃ fields, i.toJson = .record fields
    ∧ record? false shape.names i.toJson = some fields
    ∧ required? text? fields "reference" = some i.reference
    ∧ required? IssueStatus.ofValue? fields "status" = some i.status
    ∧ fields.lookup "severity" = some (Json.ofFloat i.severity)
    ∧ fields.lookup "url" = i.url.map Json.text := by
  obtain ⟨reference, status, severity, url⟩ := i
  refine ⟨_, rfl, ?_⟩
  cases url <;> cases status <;> exact ⟨rfl, rfl, rfl, rfl, rfl⟩

theorem ofValue?_toJson {i : Issue} (h : i.severity.isFinite = true) :
    ofValue? i.toJson = some i := by
  obtain ⟨fields, -, hfields, hreference, hstatus, hnumber, hurl⟩ := i.exists_fields
  have hseverity : required? number? fields "severity" = some i.severity := by
    rw [required?, hnumber, Json.ofFloat, if_pos h]
    show (if i.severity.isFinite = true then some i.severity else none) = _
    rw [if_pos h]
  simp only [ofValue?, hfields, hreference, hstatus, hseverity, optional?_text hurl,
    Option.bind_eq_bind, Option.bind_some]

end Issue

-- ================================================================ kinds

namespace Kind

/-- The name under which facts of a kind are written. -/
def tag : Kind → String
  | .coordinates _ => "coordinates"
  | k => k.formName

/-- The kind that stands for all kinds whose facts share one name. -/
def family : Kind → Kind
  | .coordinates _ => .coordinates .generic
  | .custom _ => .custom ""
  | k => k

/-- The kind that a name of facts tells. -/
def ofTag? (name : String) : Option Kind :=
  if name == "coordinates" then some (.coordinates .generic)
  else if name == "custom" then some (.custom "")
  else fixed.find? fun k => k.formName == name && !k.hasCapability .coordinates

theorem ofTag?_tag (k : Kind) : ofTag? k.tag = some k.family := by
  have hfixed : ∀ k ∈ fixed, ofTag? k.tag = some k.family := by decide +kernel
  cases k with
  | coordinates e => exact hfixed (.coordinates .generic) (by decide)
  | license role => cases role <;> exact hfixed _ (by decide)
  | note role => cases role <;> exact hfixed _ (by decide)
  | path role => cases role <;> exact hfixed _ (by decide)
  | custom name =>
      show ofTag? "custom" = some (.custom "")
      decide +kernel
  | _ => exact hfixed _ (by decide)

end Kind

-- ================================================================ facts

namespace Fact

/-- The written form of what a fact says. -/
def body : Fact → Json
  | .coordinates c => c.toJson
  | .filename e => e.toJson
  | .license _ e => e.toJson
  | .note _ s => .text s
  | .issues found => .list (found.map Issue.toJson)
  | .vcs v => v.toJson
  | .path _ p => .text p.text
  | .matchState s => .text s.name
  | .changeStatus s => .text s.name
  | .custom name v => .record [("name", .text name), ("value", v)]

theorem toJson_eq (f : Fact) : f.toJson = .record [(f.kind.tag, f.body)] := by
  cases f <;> rfl

theorem ofJson?_record (name : String) (v : Json) :
    ofJson? (.record [(name, v)]) = (Kind.ofTag? name).bind (ofContent? v) := by
  show (if name == "coordinates" then _ else if name == "custom" then _ else _) = _
  unfold Kind.ofTag?
  split
  · rfl
  · split
    · rfl
    · rfl

/-- What is asked of a fact. -/
def Storable : Fact → Prop
  | .filename e => e.Storable
  | .issues found => ∀ i ∈ found, i.severity.isFinite = true
  | .custom _ v => v.sorted = v
  | _ => True

/-- Under the name of a fact, its written form is read as that fact. -/
theorem ofContent?_body {f : Fact} (h : f.Storable) : ofContent? f.body f.kind.family = some f := by
  cases f with
  | coordinates c =>
      show (Coordinate.ofJson? c.toJson).map Fact.coordinates = _
      rw [c.ofJson?_toJson]
      rfl
  | filename e =>
      show (FileEntry.ofValue? e.toJson).map Fact.filename = _
      rw [FileEntry.ofValue?_toJson h]
      rfl
  | license role e =>
      show (Expression.ofJson? e.toJson).map (Fact.license role) = _
      rw [e.ofJson?_toJson]
      rfl
  | note role text => rfl
  | issues found =>
      have hfound : listOf? Issue.ofValue? (Json.list (found.map Issue.toJson)) = some found :=
        listOf?_map fun i hi => Issue.ofValue?_toJson (h i hi)
      show (listOf? Issue.ofValue? (Json.list (found.map Issue.toJson))).map Fact.issues = _
      rw [hfound]
      rfl
  | vcs v => rfl
  | path role p => rfl
  | matchState s => cases s <;> rfl
  | changeStatus s => cases s <;> rfl
  | custom name v =>
      have hsorted : v.sorted = v := h
      show some (Fact.custom name v.sorted) = _
      rw [hsorted]

theorem ofJson?_toJson {f : Fact} (h : f.Storable) : ofJson? f.toJson = some f := by
  rw [toJson_eq, ofJson?_record, Kind.ofTag?_tag, Option.bind_some, ofContent?_body h]

/-- Facts that are written alike are of one kind. -/
theorem kind_of_toJson {f g : Fact} (h : f.toJson = g.toJson) : f.kind = g.kind := by
  rw [toJson_eq, toJson_eq] at h
  obtain ⟨htag, hbody⟩ : f.kind.tag = g.kind.tag ∧ f.body = g.body := by simpa using h
  have hfamily : f.kind.family = g.kind.family := eq_of_read Kind.ofTag?_tag htag
  -- within a family, what the facts say tells their kinds
  cases f with
  | coordinates c =>
      cases g with
      | coordinates d => rw [Coordinate.toJson_injective hbody]
      | _ => exact absurd hfamily (by simp [kind, Kind.family])
  | custom name v =>
      cases g with
      | custom other w =>
          obtain ⟨hname, -⟩ : name = other ∧ v = w := by simpa [body] using hbody
          rw [kind, kind, hname]
      | _ => exact absurd hfamily (by simp [kind, Kind.family])
  | _ =>
      cases g with
      | coordinates d => exact absurd hfamily (by simp [kind, Kind.family])
      | custom other w => exact absurd hfamily (by simp [kind, Kind.family])
      | _ => exact hfamily

end Fact

-- ============================================================ the whole

/-- Nothing is lost in written forms. Expressions, operators, coordinates,
entries of files, identifiers, selectors and facts are read as they were
written. An optional field is there exactly if it has a value, and holds
it. Coordinates, operators and kinds of facts are never confused. -/
theorem forms_lossless :
    (∀ e : Expression, Expression.ofJson? e.toJson = some e)
      ∧ (∀ op : Operator, Operator.ofValue? op.toJson = some op)
      ∧ (∀ c : Coordinate, Coordinate.ofJson? c.toJson = some c)
      ∧ (∀ e : FileEntry, e.Storable → FileEntry.ofValue? e.toJson = some e)
      ∧ (∀ id : Identifier, id.Storable → Identifier.ofJson? id.toJson = some id)
      ∧ (∀ s : Selector, s.Storable → Selector.ofJson? s.toJson = some s)
      ∧ (∀ f : Fact, f.Storable → Fact.ofJson? f.toJson = some f)
      ∧ (∀ l : License, l.toFields.lookup "common-name" = l.commonName.map Json.text
          ∧ l.toFields.lookup "text" = l.text.map Json.text)
      ∧ (∀ e : FileEntry, ∃ fields, e.toJson = .record fields
          ∧ fields.lookup "filename" = e.filename.map Json.text
          ∧ fields.lookup "digest" = e.digest.map fun d => Json.text d.render)
      ∧ (∀ i : Issue, ∃ fields, i.toJson = .record fields
          ∧ fields.lookup "url" = i.url.map Json.text)
      ∧ (∀ c d : Coordinate, c.toJson = d.toJson → c = d)
      ∧ (∀ op op' : Operator, op.toJson = op'.toJson → op = op')
      ∧ ∀ f g : Fact, f.toJson = g.toJson → f.kind = g.kind := by
  refine ⟨Expression.ofJson?_toJson, Operator.ofValue?_toJson, Coordinate.ofJson?_toJson,
    fun _ => FileEntry.ofValue?_toJson, fun _ => Identifier.ofJson?_toJson,
    fun _ => Selector.ofJson?_toJson, fun _ => Fact.ofJson?_toJson, License.lookup_toFields,
    fun e => ?_, fun i => ?_, fun _ _ => Coordinate.toJson_injective,
    fun _ _ => Operator.toJson_injective, fun _ _ => Fact.kind_of_toJson⟩
  · obtain ⟨fields, hrecord, -, hname, hdigest⟩ := e.exists_fields
    exact ⟨fields, hrecord, hname, hdigest⟩
  · obtain ⟨fields, hrecord, -, -, -, -, hurl⟩ := i.exists_fields
    exact ⟨fields, hrecord, hurl⟩

/-- A digest that was read with blanks and capitals, a severity that is a
negative zero, and a value whose fields are in order. -/
theorem forms_lossless_samples :
    let d : Digest := ⟨.other "MD5", "abcd"⟩
    let s : Selector := .ofList [.file ⟨some "*.jar", some d⟩, .coordinate (.generic "g" "*")]
    let issues : Fact := .issues [⟨"CVE-1", .notApplicable, -0.0, none⟩]
    let team : Fact := .custom "team" (.record [("lead", .null), ("size", .integer 3)])
    Digest.parse " md5 : ABCD" = .ok d ∧ Selector.ofJson? s.toJson = some s
      ∧ Fact.ofJson? issues.toJson = some issues ∧ Fact.ofJson? team.toJson = some team := by
  intro d s issues team
  have hparse : Digest.parse " md5 : ABCD" = .ok d := by decide +kernel
  have hentry : FileEntry.Storable ⟨some "*.jar", some d⟩ := by
    intro d' hd'
    obtain rfl : d = d' := Option.some.inj hd'
    exact Or.inl ⟨_, hparse⟩
  have hselector : s.Storable := by
    refine ⟨⟨_, rfl⟩, fun id hid => ?_⟩
    have hcriteria : id ∈ [.file ⟨some "*.jar", some d⟩, .coordinate (.generic "g" "*")] :=
      (mem_sortDistinct Identifier.strictOrder_before).1 hid
    rcases List.mem_pair.1 hcriteria with rfl | rfl
    · exact hentry
    · trivial
  have hissues : issues.Storable := by
    intro i hi
    rw [List.mem_singleton.1 hi]
    decide +kernel
  have hteam : team.Storable := rfl
  obtain ⟨-, -, -, -, -, hreadselector, hreadfact, -⟩ := forms_lossless
  exact ⟨hparse, hreadselector s hselector, hreadfact issues hissues, hreadfact team hteam⟩

-- ============================================================ artifacts

/-- An artifact is read as it was written: its facts are, and adding them
one after another restores how they were filed. -/
theorem Artifact.ofJson?_toJson {a : Artifact} (h : a.Reachable)
    (hfacts : ∀ f ∈ a.allFacts, f.Storable) : Artifact.ofJson? a.toJson = some a := by
  have hlist : listOf? Fact.ofJson? (Json.list (a.allFacts.map Fact.toJson)) = some a.allFacts :=
    listOf?_map fun f hf => Fact.ofJson?_toJson (hfacts f hf)
  have hread : Artifact.ofJson? a.toJson
      = (listOf? Fact.ofJson? (Json.list (a.allFacts.map Fact.toJson))).bind fun facts =>
        some { a.flat with facts }.artifact := rfl
  rw [hread, hlist]
  exact congrArg some h.tidy.artifact_flat

end Clearance
