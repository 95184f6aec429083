import CodeTwins.Proofs.Config.Layers
import CodeTwins.Proofs.Json.Shape

/-!
# Files that cannot be used

A file sets what is taken of the values in it, of whatever kind they are. If one of them cannot be
taken, nothing of the file counts. The first such value, in the order in which they are read, decides
whether that is passed over. It is not where a table is expected and there is something else, nor for
a number that is beyond all bounds.
-/
namespace CodeTwins.ScanConfig

open Files Toml

/-- Where a value stands in a document, and what is taken of it. -/
structure Slot (β : Type) where
  path : List String
  take : Value → Except Unusable β

namespace Slot

variable {β : Type} (k : Slot β) (doc : Fields)

/-- What is taken of the value, if there is one. -/
def read : Except Unusable (Option β) :=
  match (Value.table doc).at? k.path with
  | some v => (k.take v).map some
  | none => .ok none

/-- What a document sets. -/
def get? : Option β :=
  match k.read doc with
  | .ok x => x
  | .error _ => none

/-- Why the value cannot be taken. -/
def fault? : Option Unusable :=
  match k.read doc with
  | .ok _ => none
  | .error u => some u

/-- The setting, where it only counts whether its value can be taken. -/
def check : Slot Unit :=
  ⟨k.path, fun v => (k.take v).map fun _ => ()⟩

/-- A table that holds settings. -/
def tableAt (path : List String) : Slot Fields :=
  ⟨path, fun v => orMisfit (v.fieldsFor "get")⟩

def url : Slot Value :=
  ⟨["server", "url"], .ok⟩

/-- A list of texts for the scan. -/
def listOf (name : String) : Slot (List String) :=
  ⟨["scan", name], texts name⟩

/-- The patterns for an extension as it is written. -/
def languageEntry (field : String × Value) : Except Unusable (String × List String) :=
  (texts ("scan.languages." ++ field.1) field.2).map (field.1, ·)

def languages : Slot (List (String × List String)) :=
  ⟨["scan", "languages"], fun v => do (← orMisfit (v.fieldsFor "items")).mapM languageEntry⟩

def groups : Slot (List PatternGroup) :=
  ⟨["scan", "patterns"], fun v => do (← members v).mapM groupFrom⟩

def threshold : Slot Number :=
  ⟨["scan", "similarity", "threshold"], fun v => orMisfit (v.toFloat.map .real)⟩

def limit : Slot Int :=
  ⟨["scan", "similarity", "limit"], fun v => orMisfit v.toInt⟩

/-- The action, under one of its names. -/
def action (name : String) : Slot Value :=
  ⟨["scan", "similarity", name], .ok⟩

/-- The values that may be refused, in the order in which they are read. -/
def order : List (Slot Unit) :=
  [(tableAt ["scan"]).check, languages.check, groups.check, (tableAt ["server"]).check,
    (listOf "extensions").check, (listOf "ignore").check, (listOf "use_ignore_files").check,
    (tableAt ["scan", "similarity"]).check, threshold.check, limit.check]

end Slot

/-- Every value of a document can be taken. -/
def Taken (doc : Fields) : Prop :=
  ∀ k ∈ Slot.order, k.fault? doc = none

/-- The first value that cannot be taken. -/
def FirstRefused (doc : Fields) (k : Slot Unit) : Prop :=
  ∃ before after, Slot.order = before ++ k :: after ∧ (∀ k' ∈ before, k'.fault? doc = none) ∧
    k.fault? doc ≠ none

/-- A value that is refused without being passed over. -/
inductive Unguarded (doc : Fields) : List String → Prop where
  /-- A section that is no table. -/
  | noTable {path : List String} {v : Value}
      (hpath : path ∈ [["scan"], ["scan", "languages"], ["server"], ["scan", "similarity"]])
      (hv : (Value.table doc).at? path = some v) (hkind : v.table? = none) : Unguarded doc path
  /-- A group of patterns that is no table, after groups that can be taken. -/
  | noGroup {v g : Value} {before after : List Value}
      (hv : (Value.table doc).at? ["scan", "patterns"] = some v)
      (hmembers : members v = .ok (before ++ g :: after))
      (hbefore : ∀ g' ∈ before, ∃ group, groupFrom g' = .ok group) (hkind : g.table? = none) :
      Unguarded doc ["scan", "patterns"]
  | hugeThreshold {n : Int}
      (hv : (Value.table doc).at? ["scan", "similarity", "threshold"] = some (.int n))
      (hinf : (Decimal.ofInt n).isInf = true) : Unguarded doc ["scan", "similarity", "threshold"]
  | infiniteLimit {negative : Bool}
      (hv : (Value.table doc).at? ["scan", "similarity", "limit"] =
        some (.float (Decimal.infinity negative))) : Unguarded doc ["scan", "similarity", "limit"]

/-- The defaults, except for what a document sets. -/
def overridden (r : Registry) (path : Path) (doc : Fields) : ScanConfig where
  serverUrl := (Slot.url.get? doc).getD (default r).serverUrl
  extensions := ((Slot.listOf "extensions").get? doc).getD (default r).extensions
  ignore := ((Slot.listOf "ignore").get? doc).getD (default r).ignore
  ignoreFiles := ((Slot.listOf "use_ignore_files").get? doc).getD (default r).ignoreFiles
  threshold := (Slot.threshold.get? doc).getD (default r).threshold
  limit := (Slot.limit.get? doc).getD (default r).limit
  onExceed :=
    (((Slot.action "on_exceed").get? doc).or ((Slot.action "onExceed").get? doc)).getD
      (default r).onExceed
  languages := ((Slot.languages.get? doc).getD []).foldl withLanguage (default r).languages
  groups := (Slot.groups.get? doc).getD (default r).groups
  path := some path

section Reading

variable {β γ : Type} {doc fields : Fields} {path : List String} {name : String}

namespace Slot

variable {k : Slot β} {v : Value}

private theorem read_of_some (h : (Value.table doc).at? k.path = some v) :
    k.read doc = (k.take v).map some := by
  rw [read, h]

private theorem read_of_none (h : (Value.table doc).at? k.path = none) : k.read doc = .ok none := by
  rw [read, h]

/-- What is taken as it is is what stands there. -/
theorem get?_of_any {path : List String} :
    (Slot.mk path Except.ok).get? doc = (Value.table doc).at? path := by
  unfold get? read
  cases (Value.table doc).at? path <;> rfl

private theorem fault?_check (k : Slot β) (doc : Fields) : k.check.fault? doc = k.fault? doc := by
  unfold fault? read check
  dsimp only
  cases (Value.table doc).at? k.path with
  | none => rfl
  | some v =>
    dsimp only
    cases k.take v <;> rfl

private theorem fault?_eq_some_iff {u : Unusable} :
    k.fault? doc = some u ↔ ∃ v, (Value.table doc).at? k.path = some v ∧ k.take v = .error u := by
  unfold fault? read
  cases (Value.table doc).at? k.path with
  | none => simp
  | some v => cases hv : k.take v <;> simp [Except.map, hv]

end Slot

/-- What comes of settings that are read one after the other: the first refusal, or else a result. -/
def outcome (doc : Fields) (ks : List (Slot Unit)) (x : γ) : Except Unusable γ :=
  match ks.findSome? (·.fault? doc) with
  | some u => .error u
  | none => .ok x

private theorem outcome_of_refused {k : Slot Unit} {u : Unusable} (h : k.fault? doc = some u)
    (ks : List (Slot Unit)) (x : γ) : outcome doc (k :: ks) x = .error u := by
  rw [outcome, List.findSome?_cons, h]

private theorem outcome_of_taken {k : Slot Unit} (h : k.fault? doc = none)
    (ks : List (Slot Unit)) (x : γ) : outcome doc (k :: ks) x = outcome doc ks x := by
  rw [outcome, List.findSome?_cons, h, outcome]

/-- One setting is read, and then the others. -/
theorem bind_read_eq_outcome {k : Slot β} {next : Option β → Except Unusable γ}
    {ks : List (Slot Unit)} {x : γ} (h : next (k.get? doc) = outcome doc ks x) :
    (k.read doc >>= next) = outcome doc (k.check :: ks) x := by
  cases hread : k.read doc with
  | error u =>
    have hfault : k.check.fault? doc = some u := by rw [Slot.fault?_check, Slot.fault?, hread]
    rw [outcome_of_refused hfault]
    rfl
  | ok y =>
    have hfault : k.check.fault? doc = none := by rw [Slot.fault?_check, Slot.fault?, hread]
    rw [outcome_of_taken hfault, ← h, Slot.get?, hread]
    rfl

/-- What is looked for below a path is looked for in a table. -/
def Below (doc : Fields) (path : List String) (fields : Fields) : Prop :=
  ∀ first rest, (Value.table doc).at? (path ++ first :: rest) =
    (Value.table fields).at? (first :: rest)

private theorem Below.at?_name (h : Below doc path fields) (name : String) :
    (Value.table doc).at? (path ++ [name]) = field? name fields := by
  rw [h name [], TypedKey.at?_name]

/-- A section is a table in which settings are looked for, or it is refused. -/
theorem table_or_refused (h : Below doc path fields) (name : String) (below : List String)
    (hpath : path ++ [name] = below) :
    let v := (field? name fields).getD (.table [])
    let k := Slot.tableAt below
    (∃ sub, v = .table sub ∧ Below doc below sub ∧ k.fault? doc = none) ∨
      v.table? = none ∧ k.fault? doc = some (.misfit (.noFields v.kind "get")) := by
  subst hpath
  intro v k
  have hat := h.at?_name name
  have hbelow : ∀ first rest, (Value.table doc).at? ((path ++ [name]) ++ first :: rest) =
      (field? name fields).bind (Value.at? · (first :: rest)) := by
    intro first rest
    rw [List.append_assoc]
    exact h name (first :: rest)
  cases hfield : field? name fields with
  | none =>
    rw [hfield] at hat
    refine .inl ⟨[], by simp [v, hfield], fun first rest => ?_, ?_⟩
    · rw [hbelow, hfield]
      simp [Value.at?, field?]
    · rw [Slot.fault?, Slot.read_of_none hat]
  | some value =>
    rw [hfield] at hat
    have hv : v = value := by simp [v, hfield]
    have hread := Slot.read_of_some (k := k) hat
    cases value with
    | table sub =>
      refine .inl ⟨sub, hv, fun first rest => ?_, ?_⟩
      · rw [hbelow, hfield]
        rfl
      · rw [Slot.fault?, hread]
        rfl
    | _ =>
      refine .inr ⟨by rw [hv]; rfl, ?_⟩
      rw [Slot.fault?, hread, hv]
      rfl

private theorem fieldOf_table (fields : Fields) (name : String) :
    fieldOf (.table fields) name = .ok (field? name fields) :=
  rfl

private theorem sectionOf_table (fields : Fields) (name : String) :
    sectionOf (.table fields) name = .ok ((field? name fields).getD (.table [])) :=
  rfl

private theorem fieldOf_of_not_table {v : Value} (h : v.table? = none) (name : String) :
    fieldOf v name = .error (.misfit (.noFields v.kind "get")) := by
  cases v with
  | table fields => cases h
  | _ => rfl

end Reading

section Steps

variable {β γ : Type} {doc fields : Fields} {ks : List (Slot Unit)} {x : γ}

/-- A field is read of a section, and with it the settings that are in the section. -/
theorem bind_fieldOf {below : List String} {v : Value} {name : String}
    {next : Option Value → Except Unusable γ}
    (hsection : (∃ sub, v = .table sub ∧ Below doc below sub ∧
        (Slot.tableAt below).fault? doc = none) ∨
      v.table? = none ∧
        (Slot.tableAt below).fault? doc = some (.misfit (.noFields v.kind "get")))
    (h : ∀ sub, v = .table sub → Below doc below sub →
      next (field? name sub) = outcome doc ks x) :
    (fieldOf v name >>= next) = outcome doc ((Slot.tableAt below).check :: ks) x := by
  rcases hsection with ⟨sub, rfl, hbelow, htaken⟩ | ⟨hkind, hrefused⟩
  · rw [outcome_of_taken ((Slot.fault?_check _ _).trans htaken), ← h sub rfl hbelow]
    rfl
  · rw [outcome_of_refused ((Slot.fault?_check _ _).trans hrefused), fieldOf_of_not_table hkind,
      error_bind]

/-- A setting that need not be there is read, and then the others. -/
theorem match_setting {k : Slot β} {default : β} {next : β → Except Unusable γ}
    (h : next ((k.get? doc).getD default) = outcome doc ks x) :
    (match (Value.table doc).at? k.path with
      | some v => k.take v >>= next
      | none => pure default >>= next) = outcome doc (k.check :: ks) x := by
  let after (y : Option β) : Except Unusable γ := next (y.getD default)
  have hafter : after (k.get? doc) = outcome doc ks x := h
  rw [← bind_read_eq_outcome hafter, Slot.read]
  cases (Value.table doc).at? k.path with
  | none => rfl
  | some v =>
    dsimp only
    cases k.take v <;> rfl

private theorem bind_textsOf (hscan : Below doc ["scan"] fields) {name : String}
    {default : List String} {next : List String → Except Unusable γ}
    (h : next (((Slot.listOf name).get? doc).getD default) = outcome doc ks x) :
    (textsOf (.table fields) name default >>= next) =
      outcome doc ((Slot.listOf name).check :: ks) x := by
  have hat : (Value.table doc).at? (Slot.listOf name).path = field? name fields :=
    hscan.at?_name name
  rw [← match_setting h, hat]
  cases hfield : field? name fields with
  | none =>
    rw [textsOf_eq_default hfield]
    rfl
  | some v =>
    rw [textsOf_eq_texts hfield]
    rfl

private theorem languagesFrom_eq_mapM (languages : List (String × List String)) (fields : Fields) :
    languagesFrom languages fields =
      (fields.mapM Slot.languageEntry).map (·.foldl withLanguage languages) := by
  induction fields generalizing languages with
  | nil => rfl
  | cons field fields ih =>
    obtain ⟨ext, v⟩ := field
    rw [languagesFrom]
    cases htexts : texts ("scan.languages." ++ ext) v with
    | error u =>
      have hentry : Slot.languageEntry (ext, v) = .error u := by
        rw [Slot.languageEntry, htexts]
        rfl
      rw [mapM_cons_of_error hentry]
      rfl
    | ok patterns =>
      have hentry : Slot.languageEntry (ext, v) = .ok (ext, patterns) := by
        rw [Slot.languageEntry, htexts]
        rfl
      rw [mapM_cons_of_ok hentry]
      change languagesFrom (withLanguage languages (ext, patterns)) fields = _
      rw [ih]
      cases fields.mapM Slot.languageEntry <;> rfl

private theorem bind_languages (hscan : Below doc ["scan"] fields)
    {languages : List (String × List String)}
    {next : List (String × List String) → Except Unusable γ}
    (h : next (((Slot.languages.get? doc).getD []).foldl withLanguage languages) =
      outcome doc ks x) :
    (do next (← languagesFrom languages
      (← orMisfit (((field? "languages" fields).getD (.table [])).fieldsFor "items")))) =
      outcome doc (Slot.languages.check :: ks) x := by
  have hat := hscan.at?_name "languages"
  let after (entries : Option (List (String × List String))) : Except Unusable γ :=
    next ((entries.getD []).foldl withLanguage languages)
  have hafter : after (Slot.languages.get? doc) = outcome doc ks x := h
  rw [← bind_read_eq_outcome hafter]
  cases hfield : field? "languages" fields with
  | none =>
    rw [Slot.read_of_none (hat.trans hfield)]
    rfl
  | some v =>
    rw [Slot.read_of_some (hat.trans hfield), Option.getD_some]
    simp only [Slot.languages]
    cases orMisfit (v.fieldsFor "items") with
    | error u => rfl
    | ok entries =>
      simp only [ok_bind, languagesFrom_eq_mapM]
      cases entries.mapM Slot.languageEntry <;> rfl

private theorem bind_groups (hscan : Below doc ["scan"] fields)
    {next : List PatternGroup → Except Unusable γ}
    (h : next ((Slot.groups.get? doc).getD []) = outcome doc ks x) :
    (do next (← (← members ((field? "patterns" fields).getD (.array []))).mapM groupFrom)) =
      outcome doc (Slot.groups.check :: ks) x := by
  have hat := hscan.at?_name "patterns"
  let after (groups : Option (List PatternGroup)) : Except Unusable γ := next (groups.getD [])
  have hafter : after (Slot.groups.get? doc) = outcome doc ks x := h
  rw [← bind_read_eq_outcome hafter]
  cases hfield : field? "patterns" fields with
  | none =>
    rw [Slot.read_of_none (hat.trans hfield)]
    rfl
  | some v =>
    rw [Slot.read_of_some (hat.trans hfield), Option.getD_some]
    simp only [Slot.groups]
    cases members v with
    | error u => rfl
    | ok items =>
      simp only [ok_bind]
      cases items.mapM groupFrom <;> rfl

end Steps

section File

variable (r : Registry) (path : Path) (doc : Fields)

/-- Reading a document is reading its settings, one after the other. -/
theorem ofFields_eq_outcome :
    ofFields (default r) path doc = outcome doc Slot.order (overridden r path doc) := by
  have htop : Below doc [] doc := fun _ _ => rfl
  have hserver := table_or_refused htop "server" ["server"] rfl
  rcases table_or_refused htop "scan" ["scan"] rfl with
    ⟨scan, hscan, hin, htaken⟩ | ⟨hkind, hrefused⟩
  · have hsimilarity := table_or_refused hin "similarity" ["scan", "similarity"] rfl
    rw [Slot.order, outcome_of_taken ((Slot.fault?_check _ _).trans htaken)]
    simp only [ofFields, sectionOf_table, fieldOf_table, ok_bind, hscan]
    refine bind_languages hin (bind_groups hin ?_)
    refine bind_fieldOf hserver fun server hserver hinServer => ?_
    refine bind_textsOf hin (bind_textsOf hin (bind_textsOf hin ?_))
    refine bind_fieldOf hsimilarity fun similarity hsimilarity hinSimilarity => ?_
    rw [← hinSimilarity.at?_name "threshold"]
    refine match_setting (k := Slot.threshold) ?_
    simp only [hsimilarity, fieldOf_table, ok_bind]
    rw [← hinSimilarity.at?_name "limit"]
    refine match_setting (k := Slot.limit) ?_
    -- what is left is taken as it is
    have hurl : Slot.url.get? doc = field? "url" server :=
      Slot.get?_of_any.trans (hinServer.at?_name "url")
    have haction (name : String) : (Slot.action name).get? doc = field? name similarity :=
      Slot.get?_of_any.trans (hinSimilarity.at?_name name)
    rw [groups_or_default, ← hurl, ← haction "on_exceed", ← haction "onExceed"]
    rfl
  · have hscan : sectionOf ((field? "scan" doc).getD (.table [])) "similarity" =
        .error (.misfit (.noFields ((field? "scan" doc).getD (.table [])).kind "get")) := by
      rw [sectionOf, fieldOf_of_not_table hkind]
      rfl
    rw [Slot.order, outcome_of_refused ((Slot.fault?_check _ _).trans hrefused)]
    simp only [ofFields, sectionOf_table, ok_bind, hscan, error_bind]

end File

section Guards

variable {doc : Fields}

private theorem unguarded_table_iff {path : List String}
    (hpath : path ∈ [["scan"], ["scan", "languages"], ["server"], ["scan", "similarity"]]) :
    Unguarded doc path ↔ ∃ v, (Value.table doc).at? path = some v ∧ v.table? = none := by
  refine ⟨fun h => ?_, fun ⟨v, hv, hkind⟩ => .noTable hpath hv hkind⟩
  cases h with
  | noTable _ hv hkind => exact ⟨_, hv, hkind⟩
  | noGroup | hugeThreshold | infiniteLimit => simp at hpath

private theorem unguarded_groups_iff :
    Unguarded doc ["scan", "patterns"] ↔ ∃ v before g after,
      (Value.table doc).at? ["scan", "patterns"] = some v ∧
        members v = .ok (before ++ g :: after) ∧
        (∀ g' ∈ before, ∃ group, groupFrom g' = .ok group) ∧ g.table? = none := by
  constructor
  · generalize hpath : ["scan", "patterns"] = path
    intro h
    cases h with
    | noTable hsection =>
      subst hpath
      simp at hsection
    | noGroup hv hmembers hbefore hkind => exact ⟨_, _, _, _, hv, hmembers, hbefore, hkind⟩
    | hugeThreshold | infiniteLimit => simp at hpath
  · rintro ⟨v, before, g, after, hv, hmembers, hbefore, hkind⟩
    exact .noGroup hv hmembers hbefore hkind

private theorem unguarded_threshold_iff :
    Unguarded doc ["scan", "similarity", "threshold"] ↔
      ∃ n, (Value.table doc).at? ["scan", "similarity", "threshold"] = some (.int n) ∧
        (Decimal.ofInt n).isInf = true := by
  refine ⟨?_, fun ⟨n, hv, hinf⟩ => .hugeThreshold hv hinf⟩
  generalize hpath : ["scan", "similarity", "threshold"] = path
  intro h
  cases h with
  | noTable hsection =>
    subst hpath
    simp at hsection
  | hugeThreshold hv hinf => exact ⟨_, hv, hinf⟩
  | noGroup | infiniteLimit => simp at hpath

private theorem unguarded_limit_iff :
    Unguarded doc ["scan", "similarity", "limit"] ↔
      ∃ negative, (Value.table doc).at? ["scan", "similarity", "limit"] =
        some (.float (Decimal.infinity negative)) := by
  refine ⟨?_, fun ⟨negative, hv⟩ => .infiniteLimit hv⟩
  generalize hpath : ["scan", "similarity", "limit"] = path
  intro h
  cases h with
  | noTable hsection =>
    subst hpath
    simp at hsection
  | infiniteLimit hv => exact ⟨_, hv⟩
  | noGroup | hugeThreshold => simp at hpath

private theorem not_unguarded_listOf {name : String}
    (hname : name ∈ ["extensions", "ignore", "use_ignore_files"]) :
    ¬ Unguarded doc ["scan", name] := by
  generalize hpath : ["scan", name] = path
  intro h
  have hother : path ∈ [["scan"], ["scan", "languages"], ["server"], ["scan", "similarity"],
      ["scan", "patterns"], ["scan", "similarity", "threshold"],
      ["scan", "similarity", "limit"]] := by
    cases h with
    | noTable hsection =>
      simp only [List.mem_cons, List.not_mem_nil, or_false] at hsection ⊢
      tauto
    | noGroup | hugeThreshold | infiniteLimit => simp
  subst hpath
  obtain rfl | rfl | rfl : name = "extensions" ∨ name = "ignore" ∨ name = "use_ignore_files" := by
    simpa using hname
  all_goals simp at hother

/-- The refusal is not passed over. -/
def Unusable.Escapes (u : Unusable) : Prop :=
  ∃ m, u.escaping? = some m

private theorem escapes_misfit_iff {m : Misfit} :
    (Unusable.misfit m).Escapes ↔
      (∃ kind member, m = .noFields kind member) ∨ m.isUnbounded = true := by
  cases m <;> simp [Unusable.Escapes, Unusable.escaping?, Misfit.isUnbounded]

private theorem table?_eq_none_of_fieldsFor {v : Value} {member : String} {u : Unusable}
    (h : orMisfit (v.fieldsFor member) = .error u) : v.table? = none ∧ u.Escapes := by
  cases v with
  | table fields => cases h
  | _ =>
    cases h
    exact ⟨rfl, _, rfl⟩

private theorem not_escapes_of_texts {key : String} {v : Value} {u : Unusable}
    (h : texts key v = .error u) : ¬ u.Escapes := by
  rintro ⟨m, hm⟩
  cases v with
  | str s => cases h
  | array items =>
    cases hitems : items.mapM Value.toText with
    | ok l =>
      rw [texts, hitems] at h
      cases h
    | error m' =>
      obtain ⟨before, item, after, -, -, hitem⟩ := mapM_eq_error_iff.mp hitems
      rw [texts, hitems] at h
      cases h
      unfold Value.toText at hitem
      split at hitem <;> cases hitem
      cases hm
  | _ =>
    cases h
    cases hm

private theorem not_escapes_of_textsOf {fields : Fields} {name : String} {default : List String}
    {u : Unusable} (h : textsOf (.table fields) name default = .error u) : ¬ u.Escapes := by
  cases hfield : field? name fields with
  | none =>
    rw [textsOf_eq_default hfield] at h
    cases h
  | some v =>
    rw [textsOf_eq_texts hfield] at h
    exact not_escapes_of_texts h

/-- A group of patterns is refused for good if and only if it is no table. -/
theorem escapes_of_groupFrom {v : Value} {u : Unusable} (h : groupFrom v = .error u) :
    u.Escapes ↔ v.table? = none := by
  cases v with
  | table fields =>
    refine ⟨fun hu => ?_, nofun⟩
    unfold groupFrom at h
    cases hextensions : textsOf (.table fields) "extensions" [] with
    | error u' =>
      rw [hextensions] at h
      cases h
      exact absurd hu (not_escapes_of_textsOf hextensions)
    | ok extensions =>
      rw [hextensions, ok_bind] at h
      cases hincludes : textsOf (.table fields) "include" [] with
      | error u' =>
        rw [hincludes] at h
        cases h
        exact absurd hu (not_escapes_of_textsOf hincludes)
      | ok includes =>
        rw [hincludes, ok_bind] at h
        cases hexcludes : textsOf (.table fields) "exclude" [] with
        | error u' =>
          rw [hexcludes] at h
          cases h
          exact absurd hu (not_escapes_of_textsOf hexcludes)
        | ok excludes =>
          rw [hexcludes] at h
          cases h
  | _ =>
    cases h
    exact ⟨fun _ => rfl, fun _ => ⟨_, rfl⟩⟩

section Settings

variable {u : Unusable}

private theorem escapes_tableAt {path : List String}
    (hpath : path ∈ [["scan"], ["scan", "languages"], ["server"], ["scan", "similarity"]])
    (h : (Slot.tableAt path).fault? doc = some u) : u.Escapes ↔ Unguarded doc path := by
  obtain ⟨v, hv, htake⟩ := Slot.fault?_eq_some_iff.mp h
  obtain ⟨hkind, hescapes⟩ := table?_eq_none_of_fieldsFor htake
  exact iff_of_true hescapes (.noTable hpath hv hkind)

private theorem escapes_listOf {name : String}
    (hname : name ∈ ["extensions", "ignore", "use_ignore_files"])
    (h : (Slot.listOf name).fault? doc = some u) : u.Escapes ↔ Unguarded doc ["scan", name] := by
  obtain ⟨v, -, htake⟩ := Slot.fault?_eq_some_iff.mp h
  exact iff_of_false (not_escapes_of_texts htake) (not_unguarded_listOf hname)

private theorem escapes_languages (h : Slot.languages.fault? doc = some u) :
    u.Escapes ↔ Unguarded doc ["scan", "languages"] := by
  obtain ⟨v, hv, htake⟩ := Slot.fault?_eq_some_iff.mp h
  rw [unguarded_table_iff (by simp)]
  simp only [Slot.languages] at hv htake
  cases hfields : orMisfit (v.fieldsFor "items") with
  | error u' =>
    rw [hfields] at htake
    cases htake
    obtain ⟨hkind, hescapes⟩ := table?_eq_none_of_fieldsFor hfields
    exact iff_of_true hescapes ⟨v, hv, hkind⟩
  | ok fields =>
    rw [hfields, ok_bind] at htake
    obtain ⟨before, entry, after, -, -, hentry⟩ := mapM_eq_error_iff.mp htake
    refine iff_of_false (not_escapes_of_texts (map_eq_error_iff.mp hentry)) ?_
    rintro ⟨v', hv', hkind⟩
    obtain rfl := Option.some.inj (hv.symm.trans hv')
    cases v with
    | table fields => cases hkind
    | _ => cases hfields

private theorem escapes_groups (h : Slot.groups.fault? doc = some u) :
    u.Escapes ↔ Unguarded doc ["scan", "patterns"] := by
  obtain ⟨v, hv, htake⟩ := Slot.fault?_eq_some_iff.mp h
  rw [unguarded_groups_iff]
  simp only [Slot.groups] at hv htake
  cases hmembers : members v with
  | error u' =>
    rw [hmembers] at htake
    cases htake
    have hkind : ¬ u.Escapes := by
      rintro ⟨m, hm⟩
      cases v <;> cases hmembers <;> cases hm
    refine iff_of_false hkind ?_
    rintro ⟨v', before, g, after, hv', hmembers', -⟩
    obtain rfl := Option.some.inj (hv.symm.trans hv')
    cases hmembers.symm.trans hmembers'
  | ok items =>
    rw [hmembers, ok_bind] at htake
    obtain ⟨before, g, after, rfl, hbefore, hg⟩ := mapM_eq_error_iff.mp htake
    rw [escapes_of_groupFrom hg]
    refine ⟨fun hkind => ⟨v, before, g, after, hv, hmembers, hbefore, hkind⟩, ?_⟩
    rintro ⟨v', before', g', after', hv', hmembers', hbefore', hkind⟩
    obtain rfl := Option.some.inj (hv.symm.trans hv')
    have hsame := Except.ok.inj (hmembers.symm.trans hmembers')
    have hg' : groupFrom g' = .error (.misfit (.noFields g'.kind "get")) := by
      cases g' with
      | table fields => cases hkind
      | _ => rfl
    -- the first group that is refused is the same, whichever way the list is taken apart
    have hfirst := mapM_eq_error_iff.mpr ⟨before', g', after', hsame, hbefore', hg'⟩
    obtain rfl := Except.error.inj (htake.symm.trans hfirst)
    exact (escapes_of_groupFrom hg).mp ⟨_, rfl⟩

private theorem orMisfit_eq_error_iff {β : Type} {x : Except Misfit β} :
    orMisfit x = .error u ↔ ∃ m, x = .error m ∧ u = .misfit m := by
  cases x with
  | ok b => simp [orMisfit, Except.mapError]
  | error m => simp [orMisfit, Except.mapError, eq_comm]

private theorem escapes_of_toFloat {v : Value} {m : Misfit} (h : v.toFloat = .error m) :
    (Unusable.misfit m).Escapes ↔ ∃ n, v = .int n ∧ (Decimal.ofInt n).isInf = true := by
  rw [escapes_misfit_iff]
  cases v with
  | int n =>
    simp only [Value.toFloat, Json.toFloat, Json.intToFloat] at h
    split at h
    case isTrue hinf =>
      cases h
      exact iff_of_true (.inr rfl) ⟨n, rfl, hinf⟩
    case isFalse => cases h
  | str s =>
    simp only [Value.toFloat, Json.toFloat] at h
    split at h <;> cases h
    simp [Misfit.isUnbounded]
  | bool | float => cases h
  | moment | array | table =>
    cases h
    simp [Misfit.isUnbounded]

private theorem escapes_of_toInt {v : Value} {m : Misfit} (h : v.toInt = .error m) :
    (Unusable.misfit m).Escapes ↔ ∃ negative, v = .float (Decimal.infinity negative) := by
  rw [escapes_misfit_iff]
  cases v with
  | float x =>
    have hnone : Decimal.truncate? x = none := by
      by_contra hsome
      obtain ⟨n, hn⟩ := Option.ne_none_iff_exists'.mp hsome
      simp [Value.toInt, Json.toInt, hn] at h
    rcases Decimal.truncate?_eq_none_iff.mp hnone with rfl | ⟨negative, rfl⟩
    · cases Json.toInt_notANumber.symm.trans h
      refine iff_of_false (by simp [Misfit.isUnbounded]) ?_
      rintro ⟨_ | _, hinf⟩ <;> cases congrArg Value.toInt hinf
    · cases (Json.toInt_infinity negative).symm.trans h
      exact iff_of_true (.inr rfl) ⟨negative, rfl⟩
  | str s =>
    simp only [Value.toInt, Json.toInt] at h
    split at h
    · cases h
    · split at h <;> cases h <;> simp [Misfit.isUnbounded]
  | bool | int => cases h
  | moment | array | table =>
    cases h
    simp [Misfit.isUnbounded]

private theorem escapes_threshold (h : Slot.threshold.fault? doc = some u) :
    u.Escapes ↔ Unguarded doc ["scan", "similarity", "threshold"] := by
  obtain ⟨v, hv, htake⟩ := Slot.fault?_eq_some_iff.mp h
  obtain ⟨m, hm, rfl⟩ := orMisfit_eq_error_iff.mp htake
  rw [escapes_of_toFloat (map_eq_error_iff.mp hm), unguarded_threshold_iff]
  have hat : (Value.table doc).at? ["scan", "similarity", "threshold"] = some v := hv
  simp [hat]

private theorem escapes_limit (h : Slot.limit.fault? doc = some u) :
    u.Escapes ↔ Unguarded doc ["scan", "similarity", "limit"] := by
  obtain ⟨v, hv, htake⟩ := Slot.fault?_eq_some_iff.mp h
  obtain ⟨m, hm, rfl⟩ := orMisfit_eq_error_iff.mp htake
  rw [escapes_of_toInt hm, unguarded_limit_iff]
  have hat : (Value.table doc).at? ["scan", "similarity", "limit"] = some v := hv
  simp [hat]

private theorem escapes_iff_unguarded {k : Slot Unit} (hk : k ∈ Slot.order)
    (h : k.fault? doc = some u) : u.Escapes ↔ Unguarded doc k.path := by
  simp only [Slot.order, List.mem_cons, List.not_mem_nil, or_false] at hk
  rcases hk with rfl | rfl | rfl | rfl | rfl | rfl | rfl | rfl | rfl | rfl <;>
    rw [Slot.fault?_check] at h
  · exact escapes_tableAt (by decide) h
  · exact escapes_languages h
  · exact escapes_groups h
  · exact escapes_tableAt (by decide) h
  · exact escapes_listOf (by simp) h
  · exact escapes_listOf (by simp) h
  · exact escapes_listOf (by simp) h
  · exact escapes_tableAt (by decide) h
  · exact escapes_threshold h
  · exact escapes_limit h

end Settings

end Guards

section Loading

variable {r : Registry} {tree : Node} {path : Path} {doc : Fields}

private theorem load_eq_outcome (hdoc : fieldsOf? tree path = some doc) :
    load r tree path =
      match outcome doc Slot.order (overridden r path doc) with
      | .ok c => .ok c
      | .error u =>
        match u.escaping? with
        | some m => .error m
        | none => .ok (default r) := by
  rw [← ofFields_eq_outcome]
  cases hresult : ofFields (default r) path doc with
  | ok c => simp only [load, hdoc, hresult]
  | error u => cases hescaping : u.escaping? <;> simp only [load, hdoc, hresult, hescaping]

private theorem taken_or_refused (doc : Fields) : Taken doc ∨ ∃ k, FirstRefused doc k := by
  cases hfirst : Slot.order.findSome? (·.fault? doc) with
  | none => exact .inl (List.findSome?_eq_none_iff.mp hfirst)
  | some u =>
    obtain ⟨before, k, after, horder, hk, hbefore⟩ := List.findSome?_eq_some_iff.mp hfirst
    exact .inr ⟨k, before, after, horder, hbefore, by simp [hk]⟩

private theorem load_of_taken (hdoc : fieldsOf? tree path = some doc) (h : Taken doc) :
    load r tree path = .ok (overridden r path doc) := by
  have hfirst : Slot.order.findSome? (·.fault? doc) = none := List.findSome?_eq_none_iff.mpr h
  rw [load_eq_outcome hdoc, outcome, hfirst]

private theorem load_of_refused (hdoc : fieldsOf? tree path = some doc) {k : Slot Unit}
    (h : FirstRefused doc k) :
    ∃ u : Unusable, (u.Escapes ↔ Unguarded doc k.path) ∧ load r tree path =
      match u.escaping? with
      | some m => .error m
      | none => .ok (default r) := by
  obtain ⟨before, after, horder, hbefore, hk⟩ := h
  obtain ⟨u, hu⟩ := Option.ne_none_iff_exists'.mp hk
  have hfirst : Slot.order.findSome? (·.fault? doc) = some u :=
    List.findSome?_eq_some_iff.mpr ⟨before, k, after, horder, hu, hbefore⟩
  have hmem : k ∈ Slot.order := by simp [horder]
  refine ⟨u, escapes_iff_unguarded hmem hu, ?_⟩
  rw [load_eq_outcome hdoc, outcome, hfirst]

/-- A file that cannot be read leaves the defaults. A file of which every value can be taken is laid
over them, each setting by itself. Otherwise nothing of the file counts, and the first value that
cannot be taken decides: it is passed over for the defaults, unless it is a section or a group that
is no table, or a number that is beyond all bounds. -/
theorem load_first_refused (r : Registry) (tree : Node) (path : Path) :
    (fieldsOf? tree path = none → load r tree path = .ok (default r)) ∧
    ∀ doc, fieldsOf? tree path = some doc →
      (Taken doc ∨ ∃ k, FirstRefused doc k) ∧
      (Taken doc → load r tree path = .ok (overridden r path doc)) ∧
      ∀ k, FirstRefused doc k →
        ((∃ m, load r tree path = .error m) ↔ Unguarded doc k.path) ∧
        (¬ Unguarded doc k.path → load r tree path = .ok (default r)) := by
  refine ⟨fun hnone => by rw [load, hnone], fun doc hdoc => ⟨taken_or_refused doc,
    load_of_taken hdoc, fun k hk => ?_⟩⟩
  obtain ⟨u, hiff, hload⟩ := load_of_refused (r := r) hdoc hk
  rw [hload, ← hiff, Unusable.Escapes]
  cases u.escaping? <;> simp

/-- A list that is none comes before a limit that is infinite, so that the defaults are left. -/
theorem load_first_refused_ignore :
    let text := "[scan]\nignore = 3\n[scan.similarity]\nlimit = inf\n"
    let tree : Node := .dir [(fileName, .file (Utf8.encode text))]
    ∃ doc, fieldsOf? tree [fileName] = some doc ∧
      FirstRefused doc (Slot.listOf "ignore").check ∧
      load .builtIn tree [fileName] = .ok (default .builtIn) := by
  intro text tree
  have hread : (fieldsOf? tree [fileName]).isSome = true := by decide +kernel
  have hfaults : ∀ doc ∈ fieldsOf? tree [fileName],
      (Slot.order.map fun k => (k.fault? doc).isNone) =
        [true, true, true, true, true, false, true, true, true, false] := by decide +kernel
  obtain ⟨doc, hdoc⟩ := Option.isSome_iff_exists.mp hread
  have hfaults := hfaults doc hdoc
  simp only [Slot.order, List.map_cons, List.cons.injEq, Option.isNone_iff_eq_none] at hfaults
  have hrefused : FirstRefused doc (Slot.listOf "ignore").check := by
    refine ⟨Slot.order.take 5, Slot.order.drop 6, rfl, ?_, ?_⟩
    · simp [Slot.order, hfaults]
    · simp [← Option.isNone_iff_eq_none, hfaults]
  refine ⟨doc, hdoc, hrefused, ?_⟩
  have hspec := ((load_first_refused .builtIn tree [fileName]).2 doc hdoc).2.2 _ hrefused
  exact hspec.2 (not_unguarded_listOf (by simp))

/-- A server that is given by its address alone makes the file fail. -/
theorem load_fails_on_text_for_table :
    let tree : Node := .dir [(fileName, .file (Utf8.encode "server = 'x'\n"))]
    load .builtIn tree [fileName] = .error (.noFields "str" "get") := by
  intro tree
  have herror : (match load .builtIn tree [fileName] with
      | .ok _ => none
      | .error m => some m) = some (.noFields "str" "get") := by decide +kernel
  cases hload : load .builtIn tree [fileName] with
  | ok c =>
    rw [hload] at herror
    cases herror
  | error m =>
    rw [hload] at herror
    cases herror
    rfl

end Loading

end CodeTwins.ScanConfig
