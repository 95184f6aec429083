import CodeTwins.Proofs.Config.Nearest
import CodeTwins.Proofs.Config.Usable
import CodeTwins.Proofs.Toml.TypedKeys
import CodeTwins.Proofs.Traversal

/-!
# Layers come field by field

Each field of the configuration of a place is what the user asks for, or else what the nearest file
sets, or else the default, whatever the other fields are. What comes of it is checked as a whole.
-/
namespace CodeTwins

namespace ScanConfig

open Files Toml

section Keys

def urlKey : TypedKey String :=
  TypedKey.within "server" ⟨["url"], Value.text?⟩

def extensionsKey : TypedKey (List String) :=
  TypedKey.within "scan" ⟨["extensions"], Value.texts?⟩

def ignoreKey : TypedKey (List String) :=
  TypedKey.within "scan" ⟨["ignore"], Value.texts?⟩

def ignoreFilesKey : TypedKey (List String) :=
  TypedKey.within "scan" ⟨["use_ignore_files"], Value.texts?⟩

def thresholdKey : TypedKey Number :=
  TypedKey.within "scan" (TypedKey.within "similarity" ⟨["threshold"], Value.number?⟩)

def limitKey : TypedKey Int :=
  TypedKey.within "scan" (TypedKey.within "similarity" ⟨["limit"], Value.integer?⟩)

def onExceedKey : TypedKey String :=
  TypedKey.within "scan" (TypedKey.within "similarity" ⟨["on_exceed"], Value.text?⟩)

/-- The other name of the action. -/
def onExceedAlias : TypedKey String :=
  TypedKey.within "scan" (TypedKey.within "similarity" ⟨["onExceed"], Value.text?⟩)

/-- The entry of an extension, as it is written, with its patterns. -/
def entry? (field : String × Value) : Option (String × List String) :=
  field.2.texts?.map (field.1, ·)

def entries? (v : Value) : Option (List (String × List String)) := do
  let fields ← v.table?
  fields.mapM entry?

def languagesKey : TypedKey (List (String × List String)) :=
  TypedKey.within "scan" ⟨["languages"], entries?⟩

/-- The texts of a field that need not be there. -/
def textsIn (fields : Fields) (name : String) : Option (List String) :=
  ((field? name fields).getD (.array [])).texts?

def group? (v : Value) : Option PatternGroup := do
  let fields ← v.table?
  let extensions ← textsIn fields "extensions"
  let includes ← textsIn fields "include"
  let excludes ← textsIn fields "exclude"
  return ⟨extensions.map normalExtension, includes, excludes⟩

def groups? (v : Value) : Option (List PatternGroup) := do
  let items ← v.items?
  items.mapM group?

def groupsKey : TypedKey (List PatternGroup) :=
  TypedKey.within "scan" ⟨["patterns"], groups?⟩

/-- A document of which every value that counts is of the kind of its key. -/
@[mk_iff]
structure WellTyped (doc : Fields) : Prop where
  server : (TypedKey.mk ["server"] Value.table?).Typed doc
  scan : (TypedKey.mk ["scan"] Value.table?).Typed doc
  similarity : (TypedKey.within "scan" ⟨["similarity"], Value.table?⟩).Typed doc
  url : urlKey.Typed doc
  extensions : extensionsKey.Typed doc
  ignore : ignoreKey.Typed doc
  ignoreFiles : ignoreFilesKey.Typed doc
  threshold : thresholdKey.Typed doc
  limit : limitKey.Typed doc
  onExceed : onExceedKey.Typed doc
  onExceedAlias : onExceedAlias.Typed doc
  languages : languagesKey.Typed doc
  groups : groupsKey.Typed doc

instance (doc : Fields) : Decidable (WellTyped doc) :=
  decidable_of_iff' _ (wellTyped_iff doc)

end Keys

section Spec

variable (r : Registry) (file : Option Path) (doc : Fields) (o : Overrides)

/-- An extension that the user writes, without white space and points before it. A blank one is
none. -/
def writtenExtension? (e : String) : Option String :=
  if Text.trimmed e = "" then none
  else some (String.ofList (Text.trimStart (· == '.') (Text.trimmed e).toList))

/-- The languages with an entry, in place of the one before for the same extension. -/
def withLanguage (languages : List (String × List String)) (entry : String × List String) :
    List (String × List String) :=
  setLanguage (normalExtension entry.1) entry.2 languages

/-- The configuration of which each field is what the user asks for, or else what the file sets, or
else the default. -/
def layered : ScanConfig where
  serverUrl := (((o.url.filter (· ≠ "")).or (urlKey.get? doc)).map .str).getD (default r).serverUrl
  extensions :=
    (((o.extensions.filter (· ≠ [])).map (·.filterMap writtenExtension?)).or
      (extensionsKey.get? doc)).getD (default r).extensions
  ignore := (ignoreKey.get? doc).getD (default r).ignore
  ignoreFiles := (ignoreFilesKey.get? doc).getD (default r).ignoreFiles
  threshold :=
    (o.threshold.or ((thresholdKey.get? doc).map fun n => .real n.toFloat)).getD
      (default r).threshold
  limit := (o.limit.or (limitKey.get? doc)).getD (default r).limit
  onExceed :=
    ((o.onExceed.or ((onExceedKey.get? doc).or (onExceedAlias.get? doc))).map .str).getD
      (default r).onExceed
  languages := ((languagesKey.get? doc).getD []).foldl withLanguage (default r).languages
  groups := (groupsKey.get? doc).getD (default r).groups
  path := file

/-- The document of a file. Where there is no file, nothing is set. -/
def DocumentOf (tree : Node) : Option Path → Fields → Prop
  | none, doc => doc = []
  | some path, doc => fieldsOf? tree path = some doc

/-- Whether the threshold can be taken as a double: a whole number beyond all of them cannot. -/
def Fits : Prop :=
  ∀ n, thresholdKey.get? doc = some (.whole n) → (Decimal.ofInt n).isInf = false

/-- Whether a place without a configuration is reported as such. A pattern that is refused for another
reason than a fault in it is not, nor is a value that no one takes. -/
def Unresolved.IsReported : Unresolved → Prop
  | .misfit _ => False
  | .invalid (.pattern b) => ∃ fault place, b.error = .malformed fault place
  | .invalid _ => True

/-- The first pattern that is none has a fault. -/
def FirstIsFaulty (patterns : List String) : Prop :=
  ∃ before p after, patterns = before ++ p :: after ∧
    (∀ q ∈ before, ∃ pattern, SignaturePattern.compile q = .ok pattern) ∧
    ∃ b fault place, SignaturePattern.compile p = .error b ∧ b.error = .malformed fault place

end Spec

section Reading

variable {doc fields : Fields} {name : String}

private theorem toText_of_text? {v : Value} {s : String} (h : v.text? = some s) :
    v.toText = .ok s := by
  rw [Value.eq_of_text? h]
  rfl

private theorem texts_of_texts? (key : String) {v : Value} {l : List String} (h : v.texts? = some l) :
    texts key v = .ok l := by
  cases v with
  | str s => exact congrArg Except.ok (Option.some.inj h)
  | array items =>
    exact congrArg orMisfit (mapM_ok_of_mapM_some (fun _ _ => toText_of_text?) h)
  | _ => cases h

private theorem fieldOf_of_typed {β : Type} {read : Value → Option β} {put : β → Value}
    {k : TypedKey β} (hput : ∀ v x, read v = some x → v = put x)
    (hk : k.Coincides doc ⟨[name], read⟩ fields) (h : k.Typed doc) :
    fieldOf (.table fields) name = .ok ((k.get? doc).map put) := by
  rw [hk.get?_eq, ← (hk.typed_iff.mp h).field?_eq hput]
  rfl

theorem textsOf_eq_default (h : field? name fields = none) (default : List String) :
    textsOf (.table fields) name default = .ok default := by
  have hfield : fieldOf (.table fields) name = .ok none := congrArg Except.ok h
  rewrite [textsOf, hfield]
  rfl

theorem textsOf_eq_texts {v : Value} (h : field? name fields = some v) (default : List String) :
    textsOf (.table fields) name default = texts name v := by
  have hfield : fieldOf (.table fields) name = .ok (some v) := congrArg Except.ok h
  rewrite [textsOf, hfield]
  rfl

private theorem textsOf_of_typed {k : TypedKey (List String)}
    (hk : k.Coincides doc ⟨[name], Value.texts?⟩ fields) (h : k.Typed doc)
    (default : List String) :
    textsOf (.table fields) name default = .ok ((k.get? doc).getD default) := by
  rw [hk.get?_eq]
  cases hfield : field? name fields with
  | none => rw [TypedKey.get?_eq_none hfield, textsOf_eq_default hfield, Option.getD_none]
  | some v =>
    obtain ⟨l, hread, hget⟩ := (hk.typed_iff.mp h).exists_read hfield
    rw [hget, textsOf_eq_texts hfield, Option.getD_some]
    exact texts_of_texts? name hread

private theorem languagesFrom_of_mapM {entries : List (String × List String)}
    (h : fields.mapM entry? = some entries) (languages : List (String × List String)) :
    languagesFrom languages fields = .ok (entries.foldl withLanguage languages) := by
  induction fields generalizing entries languages with
  | nil =>
    cases h
    rfl
  | cons field fields ih =>
    obtain ⟨ext, v⟩ := field
    obtain ⟨entry, hentry, rest, hrest, rfl⟩ := mapM_cons_eq_some_iff.mp h
    obtain ⟨patterns, hv, rfl⟩ := Option.map_eq_some_iff.mp hentry
    rw [languagesFrom, texts_of_texts? _ hv]
    exact ih hrest (withLanguage languages (ext, patterns))

private theorem textsOf_of_textsIn {l : List String} (h : textsIn fields name = some l) :
    textsOf (.table fields) name [] = .ok l := by
  unfold textsIn at h
  cases hfield : field? name fields with
  | none =>
    rw [hfield] at h
    rw [textsOf_eq_default hfield]
    exact congrArg Except.ok (Option.some.inj h)
  | some v =>
    rw [hfield] at h
    rw [textsOf_eq_texts hfield]
    exact texts_of_texts? name h

private theorem groupFrom_of_group? {v : Value} {group : PatternGroup} (h : group? v = some group) :
    groupFrom v = .ok group := by
  cases v with
  | table fields =>
    obtain ⟨extensions, hextensions, includes, hincludes, excludes, hexcludes, rfl⟩ :
        ∃ extensions, textsIn fields "extensions" = some extensions ∧
          ∃ includes, textsIn fields "include" = some includes ∧
            ∃ excludes, textsIn fields "exclude" = some excludes ∧
              ⟨extensions.map normalExtension, includes, excludes⟩ = group := by
      simpa [group?, Value.table?, Option.bind_eq_some_iff] using h
    simp only [groupFrom, textsOf_of_textsIn hextensions, textsOf_of_textsIn hincludes,
      textsOf_of_textsIn hexcludes, bind, Except.bind]
    rfl
  | _ => cases h

end Reading

section File

variable {doc scan : Fields} {name : String}

/-- The table of a name, in which the keys within it are looked for. -/
theorem exists_section (h : (TypedKey.mk [name] Value.table?).Typed doc) :
    ∃ fields, sectionOf (.table doc) name = .ok (.table fields) ∧
      ∀ {β : Type} (first : String) (rest : List String) (read : Value → Option β),
        (TypedKey.within name ⟨first :: rest, read⟩).Coincides doc ⟨first :: rest, read⟩ fields := by
  obtain ⟨fields, hfields, hkeys⟩ := TypedKey.exists_table h
  exact ⟨fields, congrArg Except.ok hfields, hkeys⟩

private theorem exists_languages (hk : languagesKey.Coincides doc ⟨["languages"], entries?⟩ scan)
    (h : languagesKey.Typed doc) (languages : List (String × List String)) :
    ∃ fields, sectionOf (.table scan) "languages" = .ok (.table fields) ∧
      languagesFrom languages fields =
        .ok (((languagesKey.get? doc).getD []).foldl withLanguage languages) := by
  change ∃ fields, Except.ok ((field? "languages" scan).getD (.table [])) = _ ∧ _
  rw [hk.get?_eq]
  cases hfield : field? "languages" scan with
  | none =>
    rw [TypedKey.get?_eq_none hfield]
    exact ⟨[], rfl, rfl⟩
  | some v =>
    obtain ⟨entries, hread, hget⟩ := (hk.typed_iff.mp h).exists_read hfield
    obtain ⟨fields, hfields, hentries⟩ := Option.bind_eq_some_iff.mp hread
    obtain rfl := Value.eq_of_table? hfields
    rw [hget]
    exact ⟨fields, rfl, languagesFrom_of_mapM hentries languages⟩

private theorem exists_groups (hk : groupsKey.Coincides doc ⟨["patterns"], groups?⟩ scan)
    (h : groupsKey.Typed doc) :
    ∃ items, members ((field? "patterns" scan).getD (.array [])) = .ok items ∧
      items.mapM groupFrom = .ok ((groupsKey.get? doc).getD []) := by
  rw [hk.get?_eq]
  cases hfield : field? "patterns" scan with
  | none =>
    rw [TypedKey.get?_eq_none hfield]
    exact ⟨[], rfl, rfl⟩
  | some v =>
    obtain ⟨groups, hread, hget⟩ := (hk.typed_iff.mp h).exists_read hfield
    obtain ⟨items, hitems, hgroups⟩ := Option.bind_eq_some_iff.mp hread
    obtain rfl := Value.eq_of_items? hitems
    rw [hget]
    exact ⟨items, rfl, mapM_ok_of_mapM_some (fun v group => groupFrom_of_group?) hgroups⟩

/-- The threshold of a file as it is taken. A whole number beyond all doubles is refused. -/
def takenThreshold (r : Registry) (doc : Fields) : Except Misfit Number :=
  match thresholdKey.get? doc with
  | some n => (Value.ofNumber n).toFloat.map .real
  | none => .ok (default r).threshold

private theorem takenThreshold_of_fits (r : Registry) (file : Option Path) (h : Fits doc) :
    takenThreshold r doc = .ok (layered r file doc {}).threshold := by
  unfold takenThreshold
  simp only [layered]
  cases hn : thresholdKey.get? doc with
  | none => rfl
  | some n =>
    cases n with
    | real x => rfl
    | whole m =>
      change (Json.intToFloat m).map Number.real = .ok (.real (Decimal.ofInt m))
      simp only [Json.intToFloat, h m hn, Bool.false_eq_true, if_false, Except.map]

private theorem takenThreshold_of_not_fits (r : Registry) (h : ¬ Fits doc) :
    takenThreshold r doc = .error .hugeNumber := by
  obtain ⟨m, hm, hinf⟩ : ∃ m, thresholdKey.get? doc = some (.whole m) ∧
      (Decimal.ofInt m).isInf = true := by simpa [Fits] using h
  simp only [takenThreshold, hm]
  change (Json.intToFloat m).map Number.real = _
  simp only [Json.intToFloat, hinf, if_true, Except.map]

/-- No groups are as good as those of the defaults. -/
theorem groups_or_default (r : Registry) (groups : Option (List PatternGroup)) :
    (if (groups.getD []).isEmpty then (default r).groups else groups.getD []) =
      groups.getD (default r).groups := by
  cases groups with
  | none => rfl
  | some groups => cases groups <;> rfl

/-- A well-typed file is read as its layer on the defaults, if its threshold can be taken. -/
theorem ofFields_of_typed (h : WellTyped doc) (r : Registry) (path : Path) :
    ofFields (default r) path doc = orMisfit ((takenThreshold r doc).map fun threshold =>
      { layered r (some path) doc {} with threshold }) := by
  obtain ⟨server, hserver, hinServer⟩ := exists_section h.server
  obtain ⟨scan, hscan, hinScan⟩ := exists_section h.scan
  obtain ⟨similarity, hsimilarity, hinSimilarity⟩ :=
    exists_section ((hinScan "similarity" [] Value.table?).typed_iff.mp h.similarity)
  have hinBoth {β : Type} (name : String) (read : Value → Option β) :=
    (hinScan "similarity" [name] read).trans (hinSimilarity name [] read)
  obtain ⟨languageFields, hlanguages, hfrom⟩ :=
    exists_languages (hinScan "languages" [] entries?) h.languages (default r).languages
  obtain ⟨items, hitems, hgroups⟩ := exists_groups (hinScan "patterns" [] groups?) h.groups
  have hurl : fieldOf (.table server) "url" = .ok ((urlKey.get? doc).map .str) :=
    fieldOf_of_typed (fun _ _ => Value.eq_of_text?) (hinServer "url" [] _) h.url
  have hextensions : textsOf (.table scan) "extensions" (default r).extensions =
      .ok ((extensionsKey.get? doc).getD (default r).extensions) :=
    textsOf_of_typed (hinScan "extensions" [] _) h.extensions _
  have hignore : textsOf (.table scan) "ignore" (default r).ignore =
      .ok ((ignoreKey.get? doc).getD (default r).ignore) :=
    textsOf_of_typed (hinScan "ignore" [] _) h.ignore _
  have hignoreFiles : textsOf (.table scan) "use_ignore_files" (default r).ignoreFiles =
      .ok ((ignoreFilesKey.get? doc).getD (default r).ignoreFiles) :=
    textsOf_of_typed (hinScan "use_ignore_files" [] _) h.ignoreFiles _
  have hthreshold : fieldOf (.table similarity) "threshold" =
      .ok ((thresholdKey.get? doc).map Value.ofNumber) :=
    fieldOf_of_typed (fun _ _ => Value.eq_of_number?) (hinBoth "threshold" _) h.threshold
  have hlimit : fieldOf (.table similarity) "limit" = .ok ((limitKey.get? doc).map .int) :=
    fieldOf_of_typed (fun _ _ => Value.eq_of_integer?) (hinBoth "limit" _) h.limit
  have honExceed : fieldOf (.table similarity) "on_exceed" =
      .ok ((onExceedKey.get? doc).map .str) :=
    fieldOf_of_typed (fun _ _ => Value.eq_of_text?) (hinBoth "on_exceed" _) h.onExceed
  have hother : fieldOf (.table similarity) "onExceed" =
      .ok ((onExceedAlias.get? doc).map .str) :=
    fieldOf_of_typed (fun _ _ => Value.eq_of_text?) (hinBoth "onExceed" _) h.onExceedAlias
  have hfields : orMisfit ((Value.table languageFields).fieldsFor "items") =
      .ok languageFields := rfl
  have hpatterns : fieldOf (.table scan) "patterns" = .ok (field? "patterns" scan) := rfl
  unfold ofFields
  simp only [hserver, hscan, hsimilarity, hlanguages, hfields, hfrom, hpatterns, hitems, hgroups,
    hurl, hextensions, hignore, hignoreFiles, hthreshold, hlimit, honExceed, hother, groups_or_default, bind,
    Except.bind, takenThreshold, layered, Option.map_or]
  cases thresholdKey.get? doc with
  | none => cases limitKey.get? doc <;> rfl
  | some n =>
    simp only [Option.map_some]
    cases (Value.ofNumber n).toFloat with
    | error m => rfl
    | ok x => cases limitKey.get? doc <;> rfl

end File

section Options

variable {r : Registry} {file : Option Path} {doc : Fields}

private theorem cleanExtensions_eq (es : List String) :
    cleanExtensions es = es.filterMap writtenExtension? := by
  induction es with
  | nil => rfl
  | cons e es ih =>
    unfold cleanExtensions at ih ⊢
    by_cases he : Text.trimmed e = ""
    · simp [writtenExtension?, he, ← ih]
    · simp [writtenExtension?, he, ← ih]

private theorem override_layered (r : Registry) (file : Option Path) (doc : Fields) (o : Overrides) :
    (layered r file doc {}).override o = layered r file doc o := by
  have hurl : o.url.filter (!·.isEmpty) = o.url.filter (· ≠ "") := by
    congr 1
    funext url
    by_cases h : url = "" <;> simp [h]
  have hextensions : o.extensions.filter (!·.isEmpty) = o.extensions.filter (· ≠ []) := by
    congr 1
    funext es
    cases es <;> rfl
  have hclean : cleanExtensions = (·.filterMap writtenExtension?) := funext cleanExtensions_eq
  simp [override, layered, hurl, hextensions, hclean, Option.map_or, Option.getD_or]

private theorem find?_setLanguage (ext e : String) (patterns : List String)
    (languages : List (String × List String)) :
    ((setLanguage ext patterns languages).find? (·.1 == e)).map (·.2) =
      if ext = e then some patterns else (languages.find? (·.1 == e)).map (·.2) := by
  induction languages with
  | nil => by_cases he : ext = e <;> simp [setLanguage, he]
  | cons language languages ih =>
    obtain ⟨e', ps⟩ := language
    rw [setLanguage]
    by_cases hext : e' = ext
    · subst hext
      by_cases he : e' = e <;> simp [he]
    · by_cases he : e' = e
      · subst he
        simp [hext, Ne.symm hext]
      · simpa [hext, he] using ih

/-- The last entry for an extension counts, before the languages that were there. -/
theorem find?_foldl_withLanguage (e : String) (entries languages : List (String × List String)) :
    ((entries.foldl withLanguage languages).find? (·.1 == e)).map (·.2) =
      ((entries.reverse.find? (normalExtension ·.1 == e)).map (·.2)).or
        ((languages.find? (·.1 == e)).map (·.2)) := by
  induction entries generalizing languages with
  | nil => simp
  | cons entry entries ih =>
    rw [List.foldl_cons, ih, withLanguage, find?_setLanguage, List.reverse_cons,
      List.find?_append]
    by_cases he : normalExtension entry.1 = e
    · cases entries.reverse.find? (normalExtension ·.1 == e) <;> simp [he]
    · simp [he]

private theorem mem_setLanguage {ext : String} {patterns : List String}
    {languages : List (String × List String)} {language : String × List String}
    (h : language ∈ setLanguage ext patterns languages) :
    language.2 = patterns ∨ language ∈ languages := by
  induction languages with
  | nil =>
    obtain rfl := List.mem_singleton.mp h
    exact .inl rfl
  | cons first languages ih =>
    obtain ⟨e, ps⟩ := first
    rw [setLanguage] at h
    split at h
    · rcases List.mem_cons.mp h with rfl | h
      · exact .inl rfl
      · exact .inr (.tail _ h)
    · rcases List.mem_cons.mp h with rfl | h
      · exact .inr (.head _)
      · exact (ih h).imp_right (.tail _)

private theorem mem_foldl_withLanguage {entries languages : List (String × List String)}
    {language : String × List String} (h : language ∈ entries.foldl withLanguage languages) :
    language ∈ languages ∨ ∃ entry ∈ entries, language.2 = entry.2 := by
  induction entries generalizing languages with
  | nil => exact .inl h
  | cons entry entries ih =>
    rcases ih h with h | ⟨other, hother, heq⟩
    · rcases mem_setLanguage h with heq | h
      · exact .inr ⟨entry, .head _, heq⟩
      · exact .inl h
    · exact .inr ⟨other, .tail _ hother, heq⟩

/-- All patterns are defaults, or come of an entry or a group of the file. -/
theorem mem_patterns_layered {o : Overrides} {p : String}
    (h : p ∈ (layered r file doc o).patterns) :
    p ∈ (default r).patterns ∨
      (∃ entry ∈ (languagesKey.get? doc).getD [], p ∈ entry.2) ∨
      ∃ group ∈ (groupsKey.get? doc).getD [], p ∈ group.includes ++ group.excludes := by
  rcases List.mem_append.mp h with h | h
  · obtain ⟨language, hlanguage, hp⟩ := List.mem_flatMap.mp h
    rcases mem_foldl_withLanguage hlanguage with hknown | ⟨entry, hentry, heq⟩
    · exact .inl (List.mem_append_left _ (List.mem_flatMap.mpr ⟨language, hknown, hp⟩))
    · exact .inr (.inl ⟨entry, hentry, heq ▸ hp⟩)
  · exact .inr (.inr (List.mem_flatMap.mp h))

end Options

section Compiling

theorem compiles_of_mem_builtIn {p : String} (h : p ∈ (default .builtIn).patterns) :
    ∃ pattern, SignaturePattern.compile p = .ok pattern :=
  isOk_iff_exists.mp (isOk_mapM_iff.mp isOk_patterns_builtIn p h)

end Compiling

section Resolution

variable {tree : Node} {start : Path} {file : Option Path} {doc : Fields} {c c' : ScanConfig}

private theorem load_of_document {path : Path} (hdoc : fieldsOf? tree path = some doc)
    (h : WellTyped doc) (r : Registry) :
    load r tree path = (takenThreshold r doc).map fun threshold =>
      { layered r (some path) doc {} with threshold } := by
  unfold load
  simp only [hdoc, ofFields_of_typed h]
  cases hthreshold : takenThreshold r doc with
  | ok threshold => rfl
  | error m =>
    have hfits : ¬ Fits doc := by
      intro hfits
      cases hthreshold.symm.trans (takenThreshold_of_fits r (some path) hfits)
    rw [takenThreshold_of_not_fits r hfits] at hthreshold
    cases hthreshold
    rfl

/-- The configuration that is checked is that of the layers. -/
theorem resolve_of_fits (hfile : IsNearest tree start file) (hdoc : DocumentOf tree file doc)
    (h : WellTyped doc) (hfits : Fits doc) (r : Registry) (o : Overrides) :
    resolve r tree start o = (layered r file doc o).validate.mapError .invalid := by
  have hfind := findFile_eq_iff.mpr hfile
  rw [← override_layered]
  cases file with
  | none =>
    obtain rfl : doc = [] := hdoc
    simp only [resolve, hfind]
    rfl
  | some path =>
    have hload := load_of_document hdoc h r
    rw [takenThreshold_of_fits r (some path) hfits] at hload
    simp only [resolve, hfind, hload]
    rfl

/-- A threshold that cannot be taken ends the search for a configuration. -/
theorem resolve_of_not_fits (hfile : IsNearest tree start file) (hdoc : DocumentOf tree file doc)
    (h : WellTyped doc) (hfits : ¬ Fits doc) (r : Registry) (o : Overrides) :
    resolve r tree start o = .error (.misfit .hugeNumber) := by
  have hfind := findFile_eq_iff.mpr hfile
  cases file with
  | none =>
    obtain rfl : doc = [] := hdoc
    exact absurd (fun n hn => nomatch hn) hfits
  | some path =>
    have hload := load_of_document hdoc h r
    rw [takenThreshold_of_not_fits r hfits] at hload
    simp only [resolve, hfind, hload]
    rfl

theorem fits_of_none (h : thresholdKey.get? doc = none) : Fits doc := by
  intro n hn
  cases h.symm.trans hn

/-- The defaults are usable where a file leaves them alone. -/
theorem usable_layered (hthreshold : thresholdKey.get? doc = none) (hlimit : limitKey.get? doc = none)
    (honExceed : onExceedKey.get? doc = none) (halias : onExceedAlias.get? doc = none)
    (r : Registry) (file : Option Path) : (layered r file doc {}).Usable := by
  refine ⟨?_, ?_, "warn", by decide, ?_⟩
  · simp only [layered, hthreshold]
    exact show (Number.real 0.8).isWithinUnit = true by decide +kernel
  · simp only [layered, hlimit]
    exact show (1 : Int) ≤ 10 by decide
  · simp only [layered, honExceed, halias]
    rfl

private theorem isExceedAction_iff {v : Value} :
    isExceedAction v = true ↔ ∃ action ∈ exceedActions, v = .str action := by
  cases v <;> simp [isExceedAction]

/-- Of what is usable, the patterns are checked. -/
theorem validate_eq_of_usable (h : c.Usable) :
    c.validate = ((SignaturePattern.compileAll c.patterns).mapError .pattern).map fun _ => c := by
  have hlimit : ¬ c.limit < 1 := Int.not_lt.mpr h.limit
  unfold validate
  simp only [h.threshold, isExceedAction_iff.mpr h.onExceed, hlimit, Bool.not_true,
    Bool.false_eq_true, if_false]
  cases SignaturePattern.compileAll c.patterns <;> rfl

private theorem reported_of_not_usable (h : ¬ c.Usable) :
    ∃ i, c.validate = .error i ∧ (Unresolved.invalid i).IsReported := by
  unfold validate
  by_cases hthreshold : c.threshold.isWithinUnit = true
  · by_cases hlimit : c.limit < 1
    · exact ⟨.limit c.limit, by simp [hthreshold, hlimit], trivial⟩
    · by_cases haction : isExceedAction c.onExceed = true
      · exact absurd ⟨hthreshold, by omega, isExceedAction_iff.mp haction⟩ h
      · exact ⟨.onExceed c.onExceed, by simp [hthreshold, hlimit, haction], trivial⟩
  · exact ⟨.threshold c.threshold, by simp [hthreshold], trivial⟩

theorem validate_eq_ok_iff :
    c.validate = .ok c' ↔ c' = c ∧ c.Usable ∧
      ∀ p ∈ c.patterns, ∃ pattern, SignaturePattern.compile p = .ok pattern := by
  rw [← exists_mapM_ok_iff]
  by_cases husable : c.Usable
  · rw [validate_eq_of_usable husable]
    unfold SignaturePattern.compileAll
    cases c.patterns.mapM SignaturePattern.compile with
    | ok patterns => simp [Except.mapError, Except.map, husable, eq_comm]
    | error b => simp [Except.mapError, Except.map]
  · obtain ⟨i, hi, -⟩ := reported_of_not_usable husable
    simp [hi, husable]

/-- What is not usable is reported, and so is a fault in the first pattern that is none. -/
theorem reported_iff :
    (∃ i, c.validate = .error i ∧ (Unresolved.invalid i).IsReported) ↔
      ¬ c.Usable ∨ FirstIsFaulty c.patterns := by
  by_cases husable : c.Usable
  · rw [validate_eq_of_usable husable]
    simp only [husable, not_true, false_or]
    constructor
    · intro ⟨i, hi, hreported⟩
      cases hpatterns : SignaturePattern.compileAll c.patterns with
      | ok patterns =>
        rw [hpatterns] at hi
        cases hi
      | error b =>
        rw [hpatterns] at hi
        cases hi
        obtain ⟨fault, place, hb⟩ := hreported
        obtain ⟨before, p, after, heq, hbefore, hp⟩ := mapM_eq_error_iff.mp hpatterns
        exact ⟨before, p, after, heq, hbefore, b, fault, place, hp, hb⟩
    · intro ⟨before, p, after, heq, hbefore, b, fault, place, hp, hb⟩
      have hpatterns : SignaturePattern.compileAll c.patterns = .error b :=
        mapM_eq_error_iff.mpr ⟨before, p, after, heq, hbefore, hp⟩
      rw [hpatterns]
      exact ⟨.pattern b, rfl, fault, place, hb⟩
  · simp only [husable, not_false_eq_true, true_or, iff_true]
    exact reported_of_not_usable husable

private theorem resolve_reported_iff (hfile : IsNearest tree start file)
    (hdoc : DocumentOf tree file doc) (h : WellTyped doc) (hfits : Fits doc) (r : Registry)
    (o : Overrides) :
    (∃ u, resolve r tree start o = .error u ∧ u.IsReported) ↔
      ¬ (layered r file doc o).Usable ∨ FirstIsFaulty (layered r file doc o).patterns := by
  rw [resolve_of_fits hfile hdoc h hfits, ← reported_iff]
  cases (layered r file doc o).validate <;> simp [Except.mapError]

end Resolution

end ScanConfig

end CodeTwins
