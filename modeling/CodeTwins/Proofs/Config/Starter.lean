import CodeTwins.Config.Starter
import CodeTwins.Proofs.Config.Usable
import CodeTwins.Proofs.Files.Tree
import CodeTwins.Proofs.Text.Utf8
import CodeTwins.Proofs.Toml.Document
import CodeTwins.Proofs.Traversal

/-!
# Starter files come back

A starter file that has been written is loaded as the configuration that it was written for: the
defaults, with the extensions that it lists.
-/
namespace CodeTwins

/-- The extensions are keys as they stand, in the form in which they are looked up, and the patterns
can be written. -/
def Registry.Writable (r : Registry) : Prop :=
  ∀ entry ∈ r.entries, Toml.IsBare entry.1 ∧ normalExtension entry.1 = entry.1 ∧
    ∀ p ∈ entry.2.includes, Toml.Clean p

private theorem Language.clean_builtIn :
    ∀ language ∈ builtIn, ∀ p ∈ language.includes, Toml.Clean p := by
  simp only [builtIn, List.forall_mem_cons]
  and_intros
  all_goals decide +kernel

private theorem Registry.writable_builtIn : Registry.builtIn.Writable := by
  have hkeys : ∀ entry ∈ builtIn.entries,
      Toml.IsBare entry.1 ∧ normalExtension entry.1 = entry.1 := by decide +kernel
  intro entry hentry
  obtain ⟨hbare, hnormal⟩ := hkeys entry hentry
  have hmem := ScanConfig.mem_builtIn_of_mem_entries entry hentry
  exact ⟨hbare, hnormal, Language.clean_builtIn entry.2 hmem⟩

namespace ScanConfig

open Toml

section Text

/-- Lines of which the last is empty: each of the others ends with a newline. -/
theorem toList_lines (ls : List String) :
    (String.intercalate "\n" (ls ++ [""])).toList = ls.flatMap fun l => l.toList ++ ['\n'] := by
  induction ls with
  | nil => rfl
  | cons l ls ih =>
    rw [List.cons_append, String.intercalate_cons_of_ne_nil (by simp), String.toList_append,
      String.toList_append, ih, List.flatMap_cons]
    rfl

/-- A field of a text. -/
def textSetting (name value : String) : Setting :=
  ⟨name, (writeText value).toList, .str value⟩

/-- A field of a list of texts. -/
def listSetting (name : String) (values : List String) : Setting :=
  ⟨name, (writeList values).toList, .array (values.map .str)⟩

/-- A field of a list of texts on lines of their own. -/
def longListSetting (name : String) (values : List String) : Setting :=
  ⟨name, (writeLongList values).toList, .array (values.map .str)⟩

def serverSettings : List Setting :=
  [textSetting "url" "http://localhost:3000"]

def scanSettings (extensions : List String) : List Setting :=
  [listSetting "extensions" extensions,
    longListSetting "ignore" ["node_modules/", ".git/", "dist/", "build/"],
    listSetting "use_ignore_files" [".gitignore", ".dockerignore", ".dryignore"]]

def similaritySettings : List Setting :=
  [⟨"threshold", ['0', '.', '8'], .float 0.8⟩, ⟨"limit", ['1', '0'], .int 10⟩,
    textSetting "on_exceed" "warn"]

def languageSettings (known : List (String × List String)) : List Setting :=
  known.map fun (ext, patterns) => longListSetting ext patterns

/-- The extensions that have patterns, with them. -/
def knownLanguages (c : ScanConfig) (extensions : List String) : List (String × List String) :=
  extensions.filterMap fun ext => (c.language? ext).map (ext, ·)

def languageSection (known : List (String × List String)) : List Char :=
  if known = [] then []
  else '\n' :: (headingLine "scan" ["languages"] ++ (languageSettings known).flatMap Setting.line)

/-- The lines before the section for languages, but for the last empty one. -/
def baseLines (extensions : List String) : List String :=
  ["[server]", "url = " ++ writeText "http://localhost:3000", "", "[scan]",
    "extensions = " ++ writeList extensions,
    "ignore = " ++ writeLongList ["node_modules/", ".git/", "dist/", "build/"],
    "use_ignore_files = " ++ writeList [".gitignore", ".dockerignore", ".dryignore"], "",
    "[scan.similarity]", "threshold = " ++ "0.8", "limit = " ++ "10",
    "on_exceed = " ++ writeText "warn"]

private theorem starter_eq (r : Registry) (extensions : List String) :
    starter r extensions = String.intercalate "\n"
      (baseLines (starterExtensions (default r) extensions) ++ [""] ++
        languageLines (default r) (starterExtensions (default r) extensions)) := by
  have hthreshold : (Number.real 0.8).text = "0.8" := by decide +kernel
  have hlimit : toString (10 : Int) = "10" := by decide
  rw [baseLines, ← hthreshold, ← hlimit]
  rfl

private theorem flatMap_baseLines (extensions : List String) :
    (baseLines extensions).flatMap (fun l => l.toList ++ ['\n']) =
      headingLine "server" [] ++ serverSettings.flatMap Setting.line ++ '\n' ::
      (headingLine "scan" [] ++ (scanSettings extensions).flatMap Setting.line ++ '\n' ::
      (headingLine "scan" ["similarity"] ++ similaritySettings.flatMap Setting.line)) := by
  simp [baseLines, Setting.line, headingLine, keyText, serverSettings, scanSettings,
    similaritySettings, textSetting, listSetting, longListSetting]

private theorem languageLines_eq (c : ScanConfig) (extensions : List String) :
    languageLines c extensions =
      if knownLanguages c extensions = [] then []
      else "[scan.languages]" :: (knownLanguages c extensions).map
        (fun (ext, patterns) => ext ++ " = " ++ writeLongList patterns) ++ [""] := by
  unfold languageLines knownLanguages
  simp only [List.isEmpty_iff]

private theorem flatMap_languageLines (known : List (String × List String)) :
    (known.map fun (ext, patterns) => ext ++ " = " ++ writeLongList patterns).flatMap
        (fun l => l.toList ++ ['\n']) = (languageSettings known).flatMap Setting.line := by
  simp [languageSettings, List.flatMap_map, Setting.line, longListSetting]

/-- The sections of a starter file. -/
theorem toList_starter (r : Registry) (extensions : List String) :
    (starter r extensions).toList =
      headingLine "server" [] ++ serverSettings.flatMap Setting.line ++ '\n' ::
      (headingLine "scan" [] ++
        (scanSettings (starterExtensions (default r) extensions)).flatMap Setting.line ++ '\n' ::
      (headingLine "scan" ["similarity"] ++ similaritySettings.flatMap Setting.line ++
      languageSection
        (knownLanguages (default r) (starterExtensions (default r) extensions)))) := by
  rw [starter_eq, languageLines_eq, languageSection]
  split
  case isTrue =>
    rw [List.append_nil, toList_lines, flatMap_baseLines, List.append_nil]
  case isFalse =>
    rw [← List.append_assoc, toList_lines, List.flatMap_append, List.flatMap_append,
      List.flatMap_singleton, List.flatMap_cons, flatMap_baseLines, flatMap_languageLines]
    simp [headingLine, keyText]

end Text

section Sections

variable {r : Registry} {extensions : List String} {known : List (String × List String)}

private theorem plain_textSetting {name value : String} (hname : IsBare name) (hvalue : Clean value) :
    (textSetting name value).Plain :=
  ⟨hname, spells_writeText hvalue⟩

private theorem plain_listSetting {name : String} {values : List String} (hname : IsBare name)
    (hvalues : ∀ v ∈ values, Clean v) : (listSetting name values).Plain :=
  ⟨hname, spells_writeList hvalues⟩

private theorem plain_longListSetting {name : String} {values : List String} (hname : IsBare name)
    (hvalues : ∀ v ∈ values, Clean v) : (longListSetting name values).Plain :=
  ⟨hname, spells_writeLongList hvalues⟩

private theorem plain_serverSettings : ∀ s ∈ serverSettings, s.Plain :=
  List.forall_mem_singleton.mpr (plain_textSetting (by decide) (by decide))

private theorem plain_scanSettings (hclean : ∀ e ∈ extensions, Clean e) :
    ∀ s ∈ scanSettings extensions, s.Plain := by
  simp only [scanSettings, List.forall_mem_cons]
  exact ⟨plain_listSetting (by decide) hclean, plain_longListSetting (by decide) (by decide),
    plain_listSetting (by decide) (by decide), by simp⟩

private theorem plain_similaritySettings : ∀ s ∈ similaritySettings, s.Plain := by
  simp only [similaritySettings, List.forall_mem_cons]
  exact ⟨⟨by decide, spells_threshold⟩, ⟨by decide, spells_limit⟩,
    plain_textSetting (by decide) (by decide), by simp⟩

/-- Languages that can be written, each under a name of its own. -/
structure Listed (known : List (String × List String)) : Prop where
  bare : ∀ language ∈ known, IsBare language.1
  clean : ∀ language ∈ known, ∀ p ∈ language.2, Clean p
  nodup : (known.map (·.1)).Nodup

private theorem Listed.plain (h : Listed known) : ∀ s ∈ languageSettings known, s.Plain := by
  simp only [languageSettings, List.forall_mem_map]
  exact fun language hlanguage =>
    plain_longListSetting (h.bare language hlanguage) (h.clean language hlanguage)

private theorem map_name_languageSettings (known : List (String × List String)) :
    (languageSettings known).map (·.name) = known.map (·.1) := by
  rw [languageSettings, List.map_map]
  rfl

/-- The table of languages; there is none if it would be empty. -/
def languageFields (known : List (String × List String)) : Fields :=
  if known = [] then [] else [("languages", .table ((languageSettings known).map Setting.field))]

/-- What is read of a starter file. -/
def starterFields (extensions : List String) (known : List (String × List String)) : Fields :=
  [("server", .table (serverSettings.map Setting.field)),
    ("scan", .table ((scanSettings extensions).map Setting.field ++
      [("similarity", .table (similaritySettings.map Setting.field))] ++ languageFields known))]

private theorem read_sections (hclean : ∀ e ∈ extensions, Clean e) (hknown : Listed known) :
    Toml.read (headingLine "server" [] ++ serverSettings.flatMap Setting.line ++ '\n' ::
      (headingLine "scan" [] ++ (scanSettings extensions).flatMap Setting.line ++ '\n' ::
      (headingLine "scan" ["similarity"] ++ similaritySettings.flatMap Setting.line ++
      languageSection known))) = some (starterFields extensions known) := by
  have hempty : Draft.Holds {} [] [] [] := ⟨rfl, rfl, rfl, by simp⟩
  obtain ⟨d₁, h₁, hd₁⟩ := reads_table (by decide) plain_serverSettings (by decide) hempty
    (show ["server"] ∉ [] by simp) rfl rfl
  obtain ⟨d₂, h₂, hd₂⟩ := reads_table (by decide) (plain_scanSettings hclean)
    (show ["extensions", "ignore", "use_ignore_files"].Nodup by decide) hd₁
    (show ["scan"] ∉ [["server"]] by decide) (by decide) (by decide)
  obtain ⟨d₃, h₃, hd₃⟩ := reads_subtable (by decide) (by decide) plain_similaritySettings
    (by decide) hd₂ (show ["scan", "similarity"] ∉ _ by decide) rfl rfl rfl
  have hfirst := (h₁.append (reads_blank d₁)).append ((h₂.append (reads_blank d₂)).append h₃)
  unfold languageSection starterFields languageFields
  split
  case isTrue =>
    have hread := read_of_reads hfirst
    rw [hd₃.fields_eq] at hread
    simpa only [List.append_assoc, List.cons_append, List.nil_append, List.append_nil] using hread
  case isFalse =>
    obtain ⟨d₄, h₄, hd₄⟩ := reads_subtable (by decide) (by decide) hknown.plain
      (map_name_languageSettings known ▸ hknown.nodup) hd₃
      (show ["scan", "languages"] ∉ _ by decide) rfl rfl rfl
    have hread := read_of_reads (hfirst.append ((reads_blank d₃).append h₄))
    rw [hd₄.fields_eq] at hread
    simpa only [List.append_assoc, List.cons_append, List.nil_append, List.append_nil] using hread

private theorem mem_knownLanguages {c : ScanConfig} {language : String × List String}
    (h : language ∈ knownLanguages c extensions) : c.language? language.1 = some language.2 := by
  obtain ⟨ext, -, hext⟩ := List.mem_filterMap.mp h
  obtain ⟨patterns, hpatterns, rfl⟩ := Option.map_eq_some_iff.mp hext
  exact hpatterns

private theorem map_fst_knownLanguages (c : ScanConfig) (extensions : List String) :
    (knownLanguages c extensions).map (·.1) =
      extensions.filter fun e => (c.language? e).isSome := by
  induction extensions with
  | nil => rfl
  | cons e extensions ih =>
    unfold knownLanguages at ih ⊢
    rw [List.filterMap_cons]
    cases he : c.language? e with
    | none => simpa [he] using ih
    | some patterns => simpa [he] using ih

/-- The languages of the configuration without a file are those that are registered. -/
theorem exists_entry {ext : String} {patterns : List String}
    (h : (default r).language? ext = some patterns) :
    ∃ entry ∈ r.entries, entry.1 = ext ∧ entry.2.includes = patterns := by
  obtain ⟨language, hfind, rfl⟩ := Option.map_eq_some_iff.mp h
  have hname : language.1 = ext := by simpa using List.find?_some hfind
  have hmem := List.mem_of_find?_eq_some hfind
  simp only [default, Registry.includes, Registry.sorted, List.mem_map, List.mem_mergeSort] at hmem
  obtain ⟨entry, hentry, rfl⟩ := hmem
  exact ⟨entry, hentry, hname, rfl⟩

private theorem listed_knownLanguages (hr : r.Writable) (hnodup : extensions.Nodup) :
    Listed (knownLanguages (default r) extensions) where
  bare language hlanguage := by
    obtain ⟨entry, hentry, hname, -⟩ := exists_entry (mem_knownLanguages hlanguage)
    exact hname ▸ (hr entry hentry).1
  clean language hlanguage := by
    obtain ⟨entry, hentry, -, hpatterns⟩ := exists_entry (mem_knownLanguages hlanguage)
    exact hpatterns ▸ (hr entry hentry).2.2
  nodup := by
    rw [map_fst_knownLanguages]
    exact hnodup.filter _

end Sections

section Loading

variable {r : Registry} {extensions : List String}

private theorem texts_array (key : String) (values : List String) :
    texts key (.array (values.map .str)) = .ok values := by
  have hall : (values.map Value.str).mapM Value.toText = .ok (values.map id) :=
    mapM_map_ok fun _ _ => rfl
  rw [texts, hall, List.map_id]
  rfl

private theorem setLanguage_self {ext : String} {patterns : List String}
    {languages : List (String × List String)}
    (h : languages.find? (·.1 == ext) = some (ext, patterns)) :
    setLanguage ext patterns languages = languages := by
  induction languages with
  | nil => cases h
  | cons language languages ih =>
    obtain ⟨e, ps⟩ := language
    rw [setLanguage]
    by_cases he : e = ext
    · subst he
      have hfirst : (e, ps) = (e, patterns) := by simpa using h
      rw [if_pos rfl, (Prod.mk.inj hfirst).2]
    · rw [if_neg he, ih (by simpa [he] using h)]

/-- Languages that are set to the patterns they have stay as they are. -/
theorem languagesFrom_known {c : ScanConfig} {known : List (String × List String)}
    (hknown : ∀ language ∈ known, c.language? language.1 = some language.2 ∧
      normalExtension language.1 = language.1) :
    languagesFrom c.languages ((languageSettings known).map Setting.field) = .ok c.languages := by
  induction known with
  | nil => rfl
  | cons language known ih =>
    obtain ⟨⟨hlanguage, hnormal⟩, hknown⟩ := List.forall_mem_cons.mp hknown
    obtain ⟨found, hfind, hpatterns⟩ := Option.map_eq_some_iff.mp hlanguage
    have hname : found.1 = language.1 := by simpa using List.find?_some hfind
    have hself : c.languages.find? (·.1 == language.1) = some (language.1, language.2) := by
      rw [hfind, ← hname, ← hpatterns]
    have hmore := ih hknown
    unfold languageSettings at hmore ⊢
    change languagesFrom c.languages ((language.1, .array (language.2.map .str)) :: _) = _
    rw [languagesFrom, texts_array, hnormal]
    change languagesFrom (setLanguage language.1 language.2 c.languages) _ = _
    rw [setLanguage_self hself, hmore]

/-- What is read of a starter file is the configuration that it was written for. -/
theorem ofFields_starterFields (hr : r.Writable) (extensions : List String) (path : Files.Path) :
    ofFields (default r) path (starterFields extensions (knownLanguages (default r) extensions)) =
      .ok { default r with extensions, path := some path } := by
  generalize hknown : knownLanguages (default r) extensions = known
  have hlanguages : languagesFrom (default r).languages
      ((languageSettings known).map Setting.field) = .ok (default r).languages := by
    refine languagesFrom_known fun language hlanguage => ?_
    have hfound := mem_knownLanguages (hknown ▸ hlanguage)
    obtain ⟨entry, hentry, hname, -⟩ := exists_entry hfound
    exact ⟨hfound, hname ▸ (hr entry hentry).2.1⟩
  let scan := (scanSettings extensions).map Setting.field ++
    [("similarity", .table (similaritySettings.map Setting.field))] ++ languageFields known
  have hserver : sectionOf (.table (starterFields extensions known)) "server" =
      .ok (.table (serverSettings.map Setting.field)) := rfl
  have hscan : sectionOf (.table (starterFields extensions known)) "scan" = .ok (.table scan) := rfl
  have hsimilarity : sectionOf (.table scan) "similarity" =
      .ok (.table (similaritySettings.map Setting.field)) := rfl
  have htable : sectionOf (.table scan) "languages" =
      .ok (.table ((languageSettings known).map Setting.field)) := by
    change Except.ok ((field? "languages" (languageFields known)).getD (.table [])) = _
    unfold languageFields
    split
    case isTrue h =>
      subst h
      rfl
    case isFalse => rfl
  have hitems : ∀ fields : Fields, orMisfit ((Value.table fields).fieldsFor "items") =
      .ok fields := fun _ => rfl
  have hgroups : fieldOf (.table scan) "patterns" = .ok none := by
    change Except.ok (field? "patterns" (languageFields known)) = _
    unfold languageFields
    split <;> rfl
  have hextensions : textsOf (.table scan) "extensions" (default r).extensions =
      .ok extensions := texts_array "extensions" extensions
  have hignore : textsOf (.table scan) "ignore" (default r).ignore = .ok (default r).ignore := rfl
  have hignoreFiles : textsOf (.table scan) "use_ignore_files" (default r).ignoreFiles =
      .ok (default r).ignoreFiles := rfl
  unfold ofFields
  simp only [hserver, hscan, hsimilarity, htable, hgroups, hitems, hlanguages, hextensions, hignore,
    hignoreFiles, bind, Except.bind]
  rfl

/-- A starter file that has been written is loaded as the defaults, with its extensions. It is never
passed over as unusable. -/
theorem load_starter (hr : r.Writable) (hnodup : extensions.Nodup)
    (hclean : ∀ e ∈ extensions, Clean e) {tree tree' : Files.Node} {path : Files.Path}
    (hwrite : tree.write path (Utf8.encode (starter r extensions)) = .ok tree') :
    load r tree' path =
      .ok { default r with
        extensions := starterExtensions (default r) extensions
        path := some path } := by
  have hused : (starterExtensions (default r) extensions).Nodup ∧
      ∀ e ∈ starterExtensions (default r) extensions, Clean e := by
    unfold starterExtensions
    split
    · exact ⟨show ["ts", "tsx", "js", "jsx"].Nodup by decide,
        show ∀ e ∈ ["ts", "tsx", "js", "jsx"], Clean e by decide⟩
    · exact ⟨hnodup, hclean⟩
  have hread : fieldsOf? tree' path =
      some (starterFields (starterExtensions (default r) extensions)
        (knownLanguages (default r) (starterExtensions (default r) extensions))) := by
    have hsections := read_sections hused.2 (listed_knownLanguages hr hused.1)
    rw [← toList_starter] at hsections
    rw [fieldsOf?, Files.Node.read_of_write hwrite]
    change (Utf8.decode (Utf8.encode (starter r extensions))).toOption.bind Toml.read = _
    rw [Utf8.decode_encode]
    exact hsections
  unfold load
  simp only [hread, ofFields_starterFields hr]

/-- With the languages that are built in, any extensions can be listed that differ from each other
and hold no control characters but tabs and newlines. Without any, those of the defaults are. -/
theorem load_starter_builtIn (hnodup : extensions.Nodup) (hclean : ∀ e ∈ extensions, Clean e)
    {tree tree' : Files.Node} {path : Files.Path}
    (hwrite : tree.write path (Utf8.encode (starter .builtIn extensions)) = .ok tree') :
    load .builtIn tree' path =
      .ok { default .builtIn with
        extensions := if extensions = [] then (default .builtIn).extensions else extensions
        path := some path } := by
  rw [load_starter Registry.writable_builtIn hnodup hclean hwrite, starterExtensions]
  simp only [List.isEmpty_iff]

/-- Quotes of both kinds, backslashes, white space and letters beyond ASCII come back. -/
theorem load_starter_builtIn_odd :
    let extensions := ["js", "it's \"odd\"", "a\\'b", "C\\", "é\t√", "one\ntwo", ""]
    let path := ["dry-scan.toml"]
    let tree := Files.Node.emptyDir.insert (.file (Utf8.encode (starter .builtIn extensions))) path
    extensions.Nodup ∧ (∀ e ∈ extensions, Clean e) ∧
      Files.Node.emptyDir.write path (Utf8.encode (starter .builtIn extensions)) = .ok tree ∧
      load .builtIn tree path = .ok { default .builtIn with extensions, path := some path } := by
  intro extensions path tree
  have hnodup : extensions.Nodup := by decide +kernel
  have hclean : ∀ e ∈ extensions, Clean e := by decide +kernel
  have hwrite : Files.Node.emptyDir.write path (Utf8.encode (starter .builtIn extensions)) =
      .ok tree := rfl
  exact ⟨hnodup, hclean, hwrite, load_starter_builtIn hnodup hclean hwrite⟩

end Loading

end ScanConfig

end CodeTwins
