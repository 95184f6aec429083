import CodeTwins.Proofs.Element.Encode
import CodeTwins.Proofs.Json.RoundTrip
import CodeTwins.Proofs.Service.Schema
import CodeTwins.Proofs.Traversal
import CodeTwins.Proofs.Vector.Bytes
import CodeTwins.Store.Row

/-!
# Elements as JSON

An element is the same after it has been written as a JSON value and read, and after it has been
checked as the body of a request. A field that is left out stays absent, and an empty text stays.
-/
namespace CodeTwins

open Json

namespace Metadata

/-- What stands in the fields of metadata. What is not known has no field. -/
theorem fields_toJson (m : Metadata Json) :
    ∃ fields, m.toJson = .obj fields ∧
      field? "filePath" fields = some m.filePath ∧
      field? "lineNumber" fields = some (.int m.lineNumber) ∧
      field? "elementName" fields = some m.elementName ∧
      field? "commitHash" fields = m.commitHash ∧ field? "fileHash" fields = m.fileHash ∧
      field? "basePath" fields = m.basePath := by
  obtain ⟨path, line, name, commit, file, base⟩ := m
  refine ⟨_, rfl, rfl, rfl, rfl, ?_⟩
  cases commit <;> cases file <;> cases base <;> exact ⟨rfl, rfl, rfl⟩

private theorem readable_toJson {m : Metadata} (h : Numeral.IsShort m.lineNumber) :
    (m.map Json.str).toJson.Readable := by
  obtain ⟨path, line, name, commit, file, base⟩ := m
  refine .obj ?_ ?_
  · cases commit <;> cases file <;> cases base <;> simp [Metadata.map]
  · cases commit <;> cases file <;> cases base <;>
      simp [Metadata.map, Readable.str, Readable.int h]

private theorem optionalField_eq {name : String} {fields : List (String × Json)}
    {text : Option String} (h : field? name fields = text.map Json.str) :
    optionalField name fields = text.map Json.str := by
  rw [optionalField, h]
  cases text <;> rfl

private theorem ofJson_toJson (m : Metadata) :
    Metadata.ofJson (m.map Json.str).toJson = .ok (m.map Json.str) := by
  obtain ⟨fields, htoJson, hpath, hline, hname, hcommit, hfile, hbase⟩ :=
    fields_toJson (m.map Json.str)
  rw [htoJson]
  simp only [ofJson, Json.fields, ok_bind, hpath, hline, hname, optionalField_eq hcommit,
    optionalField_eq hfile, optionalField_eq hbase, Option.getD_some]
  rfl

end Metadata

namespace Element

theorem readable_toJson {e : Element} (h : Numeral.IsShort e.metadata.lineNumber) :
    e.loose.toJson.Readable := by
  refine .obj (by simp) ?_
  simp only [List.forall_mem_cons]
  exact ⟨Metadata.readable_toJson h, .str e.text, nofun⟩

/-- An element that has been written as a JSON value is read as it was. -/
theorem ofJson_toJson (e : Element) : Element.ofJson e.loose.toJson = .ok e.loose := by
  have hmetadata := e.metadata.ofJson_toJson
  have hgiven : (e.metadata.map Json.str).toJson.isGiven = true := rfl
  have hfield : (field? "metadata" [("metadata", (e.metadata.map Json.str).toJson),
      ("elementString", .str e.text)]).getD .null = (e.metadata.map Json.str).toJson := rfl
  simp only [Element.ofJson, Element.toJson, Json.fields, Element.loose, Element.map, ok_bind, hfield,
    hgiven, if_true, hmetadata]
  rfl

end Element

namespace Service

private theorem string_str (s : String) : string (.str s) = .ok s := rfl

private theorem requiredField_eq {β : Type} {fields : List (String × Json)} {name : String} {j : Json}
    {check : Json → Checked β} {b : β} (hfield : field? name fields = some j)
    (hcheck : check j = .ok b) : requiredField fields name check = .ok b := by
  rw [requiredField, hfield]
  simp only [hcheck]
  rfl

private theorem optionalText_eq {fields : List (String × Json)} {name : String} {text : Option String}
    (h : field? name fields = text.map Json.str) : optionalText fields name = .ok text := by
  rw [optionalText, h]
  cases text <;> rfl

private theorem metadata_toJson {m : Metadata} (hline : IsLine m.lineNumber) :
    metadata (m.map Json.str).toJson = .ok m := by
  obtain ⟨fields, htoJson, hpath, hnumber, hname, hcommit, hfile, hbase⟩ :=
    Metadata.fields_toJson (m.map Json.str)
  have hchecked : lineNumber (.int m.lineNumber) = .ok m.lineNumber :=
    (if_neg (Int.not_lt.mpr hline.one_le)).trans (if_pos hline.short)
  rw [htoJson]
  simp only [metadata]
  rw [requiredField_eq hpath (string_str m.filePath), requiredField_eq hnumber hchecked,
    requiredField_eq hname (string_str m.elementName), optionalText_eq hcommit,
    optionalText_eq hfile, optionalText_eq hbase]
  rfl

theorem element_toJson {e : Element} (hline : IsLine e.metadata.lineNumber) :
    element e.loose.toJson = .ok e := by
  have hmetadata : requiredField [("metadata", (e.metadata.map Json.str).toJson),
      ("elementString", .str e.text)] "metadata" metadata = .ok e.metadata :=
    requiredField_eq rfl (metadata_toJson hline)
  simp only [element, Element.toJson, Element.loose, Element.map]
  rw [hmetadata]
  rfl

private theorem all_ok {β : Type} (bs : List β) : Checked.all (bs.map Checked.ok) = .ok bs := by
  induction bs with
  | nil => rfl
  | cons b bs ih =>
    rw [List.map_cons, Checked.all, ih]
    rfl

theorem elements_toJson {es : List Element} (hlines : ∀ e ∈ es, IsLine e.metadata.lineNumber) :
    elements (.arr (es.map fun e => e.loose.toJson)) = .ok es := by
  let items := es.map fun e => e.loose.toJson
  have helements : elements (.arr items) =
      Checked.all (items.zipIdx.map fun item => Checked.within (toString item.2) (element item.1)) :=
    rfl
  have hitems : (items.zipIdx.map fun item => Checked.within (toString item.2) (element item.1)) =
      es.map Checked.ok := by
    refine List.ext_getElem (by simp [items]) fun i hi hi' => ?_
    have hlt : i < es.length := by simpa [items] using hi
    have helement := element_toJson (hlines es[i] (List.getElem_mem hlt))
    simp only [items, List.getElem_map, List.getElem_zipIdx, helement]
    rfl
  rw [helements, hitems, all_ok]

end Service

namespace Store.Row

/-- A row holds the element and the vector of its record. -/
theorem record?_ofRecord {r : Record Element (Vec Float)} (hline : r.element.Writable) :
    ∃ row, ofRecord r = .ok row ∧ row.record? = some ⟨r.id, r.element.loose, r.vector⟩ := by
  have hgap : ∀ c ∈ Style.spaced.gap.toList, isBlank c = true := by simp [Style.spaced, isBlank]
  have htext := parse_writeIn hgap (Element.readable_toJson hline)
  refine ⟨_, by rw [ofRecord, Element.encode_of_writable hline]; rfl, ?_⟩
  simp only [record?, htext, Except.toOption, Option.bind_eq_bind, Option.bind_some,
    r.element.ofJson_toJson, Vec.decode_encode]
  rfl

end Store.Row

end CodeTwins
