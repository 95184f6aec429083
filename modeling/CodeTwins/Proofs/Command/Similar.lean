import CodeTwins.Command.Run
import CodeTwins.Proofs.Client.Calls
import CodeTwins.Proofs.Command.Shell
import CodeTwins.Proofs.Config.Usable

/-!
# What is told of similar pairs

The command that tells of the most similar pairs shows the first ones of the ranking of all pairs, as
many as the limit allows. It tells that there are more, warns and fails exactly if there are more, and
if it is to fail then. One pair more than the limit is all that it asks for.
-/
namespace CodeTwins.Command

open Store Connection

section Telling

variable {σ β γ δ : Type}

/-- A text with lines added to it. -/
def withLines (text : String) (lines : List String) : String :=
  lines.foldl (fun text line => text ++ line ++ "\n") text

/-- The shell after lines have been told. -/
def Shell.told (s : Shell σ) (lines : List String) : Shell σ :=
  { s with output := withLines s.output lines }

/-- The shell after warnings. -/
def Shell.warned (s : Shell σ) (lines : List String) : Shell σ :=
  { s with errors := withLines s.errors lines }

private theorem told_told (s : Shell σ) (lines more : List String) :
    (s.told lines).told more = s.told (lines ++ more) := by
  simp only [Shell.told, withLines, List.foldl_append]

private theorem warned_nil (s : Shell σ) : s.warned [] = s :=
  rfl

private theorem run_say (line : String) (s : Shell σ) :
    (say line : Act σ Unit).run s = (.ok (), s.told [line]) :=
  rfl

private theorem run_complain (line : String) (s : Shell σ) :
    (complain line : Act σ Unit).run s = (.ok (), s.warned [line]) :=
  rfl

/-- A line is told before what follows. -/
theorem run_say_bind (line : String) (m : Act σ β) (s : Shell σ) :
    (say line >>= fun _ => m).run s = m.run (s.told [line]) :=
  run_bind_of_ok (run_say line s)

/-- The shell after a choice of how much to log. -/
def Shell.logged (s : Shell σ) (l : Logging) : Shell σ :=
  { s with logging := l :: s.logging }

/-- A command with its options is performed after that choice. -/
theorem run_command (w : Surroundings σ) (level : Option LogLevel) {name : Name}
    (hname : name ≠ .serve) (i : Instruction) (s : Shell σ) :
    (w.act (.command level name (.ok (.instruction i)))).run s =
      (w.perform level i).run (s.logged (.level (level.getD LogLevel.warning))) := by
  have hset : (setUp level name : Act σ Unit).run s =
      (.ok (), s.logged (.level (level.getD LogLevel.warning))) := by
    rw [setUp, if_neg hname]
    rfl
  exact run_bind_of_ok hset

/-- The lines that tell of members of a list, numbered from a number on. -/
def numberedLines (lines : Nat → β → List String) : Nat → List β → List String
  | _, [] => []
  | n, b :: bs => lines n b ++ numberedLines lines (n + 1) bs

private theorem run_sayAll {tell : Nat → γ → Act σ Unit} {lines : Nat → δ → List String}
    {shown : β → γ} {item : β → δ}
    (htell : ∀ n b s, (tell n (shown b)).run s = (.ok (), s.told (lines n (item b))))
    (n : Nat) (bs : List β) (s : Shell σ) :
    (sayAll tell n (bs.map shown)).run s =
      (.ok (), s.told (numberedLines lines n (bs.map item))) := by
  induction bs generalizing n s with
  | nil => rfl
  | cons b bs ih =>
    rw [List.map_cons, sayAll, run_bind_of_ok (htell n b s), ih, told_told]
    rfl

/-- The lines that tell of a pair. -/
def pairLines (number : Nat) (p : SimilarPair) : List String :=
  ["\n" ++ toString number ++ ". Similarity: " ++ percent p.similarity,
    "   Element 1: " ++ named p.first.loose, "   Element 2: " ++ named p.second.loose,
    "   ---", "   Element 1 Snippet:", snippet 3 p.first.text,
    "   Element 2 Snippet:", snippet 3 p.second.text]

/-- A pair of records, scored by how similar they are. -/
abbrev ScoredPair := Scored Float (Record Element (Vec Float) × Record Element (Vec Float))

/-- The pair of elements in the records of a scored pair. -/
def elementPair (p : ScoredPair) : SimilarPair :=
  ⟨p.item.1.element, p.item.2.element, p.score⟩

private theorem run_textOf (e : Element) (s : Shell σ) :
    (textOf e.loose : Act σ String).run s = (.ok e.text, s) :=
  rfl

private theorem run_sayPair (number : Nat) (p : ScoredPair) (s : Shell σ) :
    (sayPair number (Service.shownPair p)).run s =
      (.ok (), s.told (pairLines number (elementPair p))) := by
  simp only [sayPair, run_say_bind, Service.shownPair, told_told]
  rw [run_bind_of_ok (run_textOf _ _)]
  simp only [run_say_bind, told_told]
  rw [run_bind_of_ok (run_textOf _ _), run_say, told_told]
  rfl

/-- What is warned of if there are more pairs than the limit allows. -/
def excessLines (count : Nat) (limit : Int) (action : String) : List String :=
  ("\n⚠️  WARNING: Found " ++ toString count ++
    " similar matches, which exceeds the limit of " ++ toString limit ++ ".") ::
      if action = "fail" then ["Action configured to \"fail\". Exiting with non-zero code."] else []

private theorem run_checkExceeded_of_le {count : Nat} {limit : Int} (h : count ≤ limit)
    (action : Toml.Value) (s : Shell σ) :
    (checkExceeded count limit action).run s = (.ok (), s) := by
  unfold checkExceeded
  rw [if_neg (Int.not_lt.mpr h)]
  rfl

private theorem run_checkExceeded_of_lt {count : Nat} {limit : Int} (h : limit < count)
    {action : String} (haction : action ∈ ScanConfig.exceedActions) (s : Shell σ) :
    (checkExceeded count limit (.str action)).run s =
      (if action = "fail" then .error (.exit 1) else .ok (),
        s.warned (excessLines count limit action)) := by
  unfold checkExceeded
  rw [if_pos h, run_bind_of_ok (run_complain _ s)]
  obtain rfl | rfl : action = "warn" ∨ action = "fail" := by
    simpa [ScanConfig.exceedActions] using haction
  · rfl
  · rfl

/-- The lines that tell of the pairs that are shown, and whether there are more of them. -/
def pairsLines (more : Prop) [Decidable more] (shown : List SimilarPair) : List String :=
  if shown = [] then ["No similar element pairs found."]
  else
    ("Found " ++ (if more then "more than " else "") ++ toString shown.length ++
      " similar element pairs:") :: numberedLines pairLines 1 shown

/-- Of the pairs that have been asked for, as many are told of as the limit allows. One more than
that shows that it is exceeded. -/
theorem run_sayPairs {config : ScanConfig} (hlimit : 1 ≤ config.limit) {action : String}
    (haction : config.onExceed = .str action) (hknown : action ∈ ScanConfig.exceedActions)
    (ranking : List ScoredPair) (s : Shell σ) :
    (sayPairs config ((ranking.take (config.limit + 1).toNat).map Service.shownPair)).run s =
      (if config.limit < ranking.length ∧ action = "fail" then .error (.exit 1) else .ok (),
        (s.told (pairsLines (config.limit < ranking.length)
          ((ranking.take config.limit.toNat).map elementPair))).warned
          (if config.limit < ranking.length then
            excessLines (config.limit.toNat + 1) config.limit action else [])) := by
  obtain ⟨limit, hcount⟩ := Int.eq_ofNat_of_zero_le (Int.le_trans Int.one_nonneg hlimit)
  have hasked : (config.limit + 1).toNat = limit + 1 := by omega
  have hshown : config.limit.toNat = limit := by omega
  rw [hasked, hshown]
  have hlength : ((ranking.take (limit + 1)).map (Service.shownPair)).length =
      min (limit + 1) ranking.length := by rw [List.length_map, List.length_take]
  have htake : ((ranking.take (limit + 1)).map Service.shownPair).take limit =
      (ranking.take limit).map Service.shownPair := by
    rw [← List.map_take, List.take_take, Nat.min_eq_left (Nat.le_succ limit)]
  have hexceeded : config.limit < (min (limit + 1) ranking.length : Nat) ↔
      config.limit < ranking.length := by omega
  by_cases hnone : ranking = []
  · have hno : ¬ config.limit < 0 := by omega
    simp [hnone, sayPairs, pairsLines, hno, run_say, warned_nil]
  have hsome : ¬ ((ranking.take (limit + 1)).map Service.shownPair).isEmpty = true := by
    simpa using hnone
  have htold : ∀ s : Shell σ, (sayAll sayPair 1 ((ranking.take limit).map Service.shownPair)).run s =
      (.ok (), s.told (numberedLines pairLines 1 ((ranking.take limit).map elementPair))) :=
    run_sayAll run_sayPair 1 (ranking.take limit)
  unfold sayPairs
  rw [if_neg hsome]
  simp only [hshown, htake, hlength, hexceeded, run_say_bind]
  rw [run_bind_of_ok (htold _), told_told, haction]
  have hpairs : (ranking.take limit).map elementPair ≠ [] := by
    have hpos : limit ≠ 0 := by omega
    simp [hnone, hpos]
  have hlines : ["Found " ++ (if config.limit < ranking.length then "more than " else "") ++
      toString ((ranking.take limit).map Service.shownPair).length ++ " similar element pairs:"] ++
      numberedLines pairLines 1 ((ranking.take limit).map elementPair) =
      pairsLines (config.limit < ranking.length) ((ranking.take limit).map elementPair) := by
    rw [pairsLines, if_neg hpairs, List.length_map, List.length_map]
    rfl
  rw [hlines]
  by_cases hmore : config.limit < ranking.length
  · have hmin : min (limit + 1) ranking.length = limit + 1 := by omega
    have hlt : config.limit < (limit + 1 : Nat) := by omega
    rw [hmin, run_checkExceeded_of_lt hlt hknown]
    simp only [hmore, true_and, if_true]
  · have hle : (min (limit + 1) ranking.length : Nat) ≤ config.limit := by omega
    rw [run_checkExceeded_of_le hle]
    simp only [hmore, false_and, if_false, warned_nil]

end Telling

section Asking

/-- What is asked of the server comes to what it comes to without a shell around it. -/
theorem callOf_transport {σ β : Type} (w : Surroundings σ) (address : String)
    (d : Except Misfit Demand) (parse : Json → Except Misfit β) (s : Shell σ) :
    ∃ requests, (Connection.mk address w.transport).callOf d parse s =
      (((Connection.mk address w.send).callOf d parse s.server).1,
        { s with
          server := ((Connection.mk address w.send).callOf d parse s.server).2
          requests }) := by
  unfold callOf
  split
  · exact ⟨_, rfl⟩
  · exact ⟨s.requests, rfl⟩

variable {τ : Type} [LT τ] [DecidableRel (α := τ) (· < ·)] [Add τ]
  {w : Surroundings (Service Float τ)} {address time : String} {config : ScanConfig}
  {s : Shell (Service Float τ)}

/-- A service that the command sends its requests to answers with the first pairs of the ranking. -/
theorem run_ask_findPairs (hsend : w.send = (Service.transport time).written)
    (haddress : Client.IsRoot address) (hs : Service.Answerable s.server)
    (hfinite : ∀ r ∈ s.server.store.written.all, r.vector.IsFinite)
    {threshold : Number} (hthreshold : threshold.isWithinUnit = true) {limit : Int}
    (hpos : 0 ≤ limit) (hlimit : limit < 10 ^ Numeral.maxDigits) :
    ∃ requests, (ask ((Connection.mk address w.transport).findPairs threshold limit)).run s =
      (.ok (((Similarity.ranking threshold.toFloat s.server.store.written.all).take
        limit.toNat).map Service.shownPair), { s with requests }) := by
  obtain ⟨requests, hcall⟩ := callOf_transport w address (Demand.findPairs threshold limit)
    (listOf "pairs" SimilarPair.ofJson) s
  have hfound := findPairs_toService haddress time hs hfinite hthreshold hpos hlimit
  rw [toService, ← hsend, findPairs] at hfound
  rw [hfound] at hcall
  refine ⟨requests, ?_⟩
  rw [run_ask, findPairs, hcall]
  rfl

/-- What the command tells before it asks. -/
def askedLines (address : String) (config : ScanConfig) : List String :=
  ["Using server: " ++ address, "Finding most similar pairs (threshold: " ++
    config.threshold.text ++ ", limit: " ++ toString config.limit ++ ")..."]

omit [LT τ] [DecidableRel (α := τ) (· < ·)] [Add τ] in
/-- The command tells what it asks for, asks for one pair more than the limit, and tells of them. -/
theorem run_similar_asking {threshold : Option Float} {limit : Option Int}
    {onExceed url : Option String}
    (hconfig : ScanConfig.resolve w.registry s.tree w.directory
      { url, limit, onExceed, threshold := threshold.map .real } = .ok config)
    (hconnect : w.connect config.serverUrl = pure ⟨address, w.transport⟩)
    (hlimit : config.limit < 10 ^ Numeral.maxDigits) :
    (w.similar threshold limit onExceed url).run s =
      (ask ((Connection.mk address w.transport).findPairs config.threshold (config.limit + 1)) >>=
        sayPairs config).run (s.told (askedLines address config)) := by
  have hpos : 1 ≤ config.limit := (ScanConfig.usable_of_resolve hconfig).limit
  have htext : Json.intText config.limit = .ok (toString config.limit) :=
    Json.intText_of_isShort ((Numeral.isShort_iff_lt (by omega)).mpr hlimit)
  unfold Surroundings.similar
  rw [run_bind_of_ok (run_configOf hconfig), hconnect, pure_bind, run_say_bind, htext, orStop,
    pure_bind, run_say_bind, told_told]
  rfl

/-- The first pairs of a ranking are told of, whatever the service holds. -/
theorem run_similar {threshold : Option Float} {limit : Option Int} {onExceed url : Option String}
    (hsend : w.send = (Service.transport time).written) (haddress : Client.IsRoot address)
    (hs : Service.Answerable s.server)
    (hfinite : ∀ r ∈ s.server.store.written.all, r.vector.IsFinite)
    (hconfig : ScanConfig.resolve w.registry s.tree w.directory
      { url, limit, onExceed, threshold := threshold.map .real } = .ok config)
    (hconnect : w.connect config.serverUrl = pure ⟨address, w.transport⟩)
    (hlimit : config.limit + 1 < 10 ^ Numeral.maxDigits) {action : String}
    (haction : config.onExceed = .str action) {ranking : List ScoredPair}
    (hranking : Similarity.ranking config.threshold.toFloat s.server.store.written.all = ranking) :
    ∃ requests, (w.similar threshold limit onExceed url).run s =
      (if config.limit < ranking.length ∧ action = "fail" then .error (.exit 1) else .ok (),
        (({ s with requests } : Shell (Service Float τ)).told
          (askedLines address config ++ pairsLines (config.limit < ranking.length)
            ((ranking.take config.limit.toNat).map elementPair))).warned
          (if config.limit < ranking.length then
            excessLines (config.limit.toNat + 1) config.limit action else [])) := by
  obtain ⟨hthreshold, hpos, action', hknown, haction'⟩ := ScanConfig.usable_of_resolve hconfig
  obtain rfl : action' = action := Toml.Value.str.inj (haction'.symm.trans haction)
  have hnext : 0 ≤ config.limit + 1 := by omega
  obtain ⟨requests, hask⟩ := run_ask_findPairs (s := s.told (askedLines address config))
    hsend haddress hs hfinite hthreshold hnext hlimit
  refine ⟨requests, ?_⟩
  rw [run_similar_asking hconfig hconnect (by omega), run_bind_of_ok hask]
  subst hranking
  rw [run_sayPairs hpos haction hknown, ← told_told]
  rfl

/-- The command tells of the first pairs of the whole ranking, as many as the limit allows. It says
that there are more, and warns, exactly if there are more, and fails exactly if it is to fail then. -/
theorem run_detects_excess {words : List String} {level : Option LogLevel}
    {threshold : Option Float} {limit : Option Int} {onExceed url : Option String}
    (hsend : w.send = (Service.transport time).written) (haddress : Client.IsRoot address)
    (hs : Service.Answerable s.server)
    (hfinite : ∀ r ∈ s.server.store.written.all, r.vector.IsFinite)
    (hwords : Line.read words =
      .command level .similar (.ok (.instruction (.similar threshold limit onExceed url))))
    (hconfig : ScanConfig.resolve w.registry s.tree w.directory
      { url, limit, onExceed, threshold := threshold.map .real } = .ok config)
    (hconnect : w.connect config.serverUrl = pure ⟨address, w.transport⟩)
    (hlimit : config.limit + 1 < 10 ^ Numeral.maxDigits) {action : String}
    (haction : config.onExceed = .str action) :
    ∃ ranking, Similarity.IsRanking config.threshold.toFloat s.server.store.written.all ranking ∧
      ∃ s', w.run words s =
          (.finished (if config.limit < ranking.length ∧ action = "fail" then 1 else 0), s') ∧
        s'.output = withLines s.output (askedLines address config ++
          pairsLines (config.limit < ranking.length)
            ((ranking.take config.limit.toNat).map elementPair)) ∧
        s'.errors = withLines s.errors (if config.limit < ranking.length then
          excessLines (config.limit.toNat + 1) config.limit action else []) ∧
        s'.server = s.server := by
  refine ⟨_, Similarity.isRanking_ranking _ _, ?_⟩
  generalize hranking : Similarity.ranking config.threshold.toFloat s.server.store.written.all =
    ranking
  obtain ⟨requests, hrun⟩ := run_similar (s := s.logged (.level (level.getD LogLevel.warning)))
    hsend haddress hs hfinite hconfig hconnect hlimit haction hranking
  unfold Surroundings.run
  rw [hwords, run_command w level (by decide), Surroundings.perform, hrun]
  by_cases hfails : config.limit < ranking.length ∧ action = "fail"
  · simp only [if_pos hfails]
    exact ⟨_, rfl, rfl, rfl, rfl⟩
  · simp only [if_neg hfails]
    exact ⟨_, rfl, rfl, rfl, rfl⟩

private def recordOf (name : String) : Record Element (Vec Float) :=
  ⟨name, ⟨⟨"a.js", 1, name, none, none, none⟩, name⟩, [1, 2]⟩

private def holding (names : List String) : Service Float Int where
  store := Store.run (Store.empty 10) [(0, .putAll (names.map recordOf))]
  embedder := ⟨none, 100⟩
  ids := fun n => String.ofList (List.replicate (n + 1) 'i')
  now := 0

private def shellOf (names : List String) : Shell (Service Float Int) where
  tree := Files.Node.emptyDir
  server := holding names

private def besideService : Surroundings (Service Float Int) where
  directory := []
  send := (Service.transport "now").written

private theorem resolve_limit {n : Int} (hn : 1 ≤ n) (action : Option String)
    (haction : ∀ a ∈ action, a ∈ ScanConfig.exceedActions) (names : List String) :
    ScanConfig.resolve besideService.registry (shellOf names).tree besideService.directory
        { limit := some n, onExceed := action } =
      .ok ((ScanConfig.default .builtIn).override { limit := some n, onExceed := action }) :=
  ScanConfig.resolve_default rfl (ScanConfig.usable_limit hn .builtIn haction)
    ScanConfig.isOk_patterns_builtIn

/-- Of three pairs one is told, with a warning, and the command fails. -/
theorem run_detects_excess_of_three :
    let s := shellOf ["f", "g", "h"]
    let ended := besideService.run ["similar", "-l", "1", "--on-exceed", "fail"] s
    ∃ ranking, Similarity.IsRanking 0.8 s.server.store.written.all ranking ∧ ranking.length = 3 ∧
      ended.1.code = 1 ∧ ended.2.errors = withLines "" (excessLines 2 1 "fail") ∧
      ended.2.output = withLines "" (["Using server: http://localhost:3000",
        "Finding most similar pairs (threshold: 0.8, limit: 1)...",
        "Found more than 1 similar element pairs:"] ++
          ((ranking.take 1).map elementPair).flatMap (pairLines 1)) := by
  intro s ended
  have hs : s.server.Answerable := ⟨rfl, rfl, by decide +kernel⟩
  have hwords : Line.read ["similar", "-l", "1", "--on-exceed", "fail"] = .command none .similar
      (.ok (.instruction (.similar none (some 1) (some "fail") none))) := rfl
  obtain ⟨ranking, hranking, s', hrun, houtput, herrors, -⟩ :=
    run_detects_excess (w := besideService) (s := s) rfl (by decide) hs (by decide +kernel) hwords
      (resolve_limit (by decide) (some "fail") (by decide) _) rfl (by decide +kernel) rfl
  have hlength : ranking.length = 3 := hranking.perm.length_eq.trans (by decide +kernel)
  have hended : ended = (.finished 1, s') := by
    refine hrun.trans ?_
    rw [hlength]
    rfl
  rw [hlength] at houtput herrors
  refine ⟨ranking, hranking, hlength, ?_, ?_, ?_⟩
  · rw [hended]
    rfl
  · rw [hended]
    exact herrors
  · rw [hended]
    obtain ⟨p, q, r, rfl⟩ := List.length_eq_three.mp hlength
    have hasked : askedLines "http://localhost:3000" ((ScanConfig.default .builtIn).override
        { limit := some 1, onExceed := some "fail" }) = ["Using server: http://localhost:3000",
          "Finding most similar pairs (threshold: 0.8, limit: 1)..."] := by decide +kernel
    have hfound : "Found " ++ "more than " ++ toString [elementPair p].length ++
        " similar element pairs:" = "Found more than 1 similar element pairs:" := by
      rw [List.length_singleton]
      decide
    have hpairs : pairsLines ((1 : Int) < (3 : Nat)) [elementPair p] =
        "Found more than 1 similar element pairs:" :: pairLines 1 (elementPair p) := by
      rw [pairsLines, if_neg (List.cons_ne_nil _ _), if_pos (by decide), numberedLines,
        numberedLines, List.append_nil, hfound]
    have hlines := congrArg₂ (· ++ ·) hasked hpairs
    refine houtput.trans ((congrArg (withLines "") hlines).trans ?_)
    rw [List.take_one, List.head?_cons, Option.toList_some, List.map_singleton,
      List.flatMap_singleton]
    rfl

omit [LT τ] [DecidableRel (α := τ) (· < ·)] [Add τ] in
/-- A limit whose successor has too many digits is told, but no pairs are asked for. -/
theorem run_similar_of_huge {threshold : Option Float} {limit : Option Int}
    {onExceed url : Option String}
    (hconfig : ScanConfig.resolve w.registry s.tree w.directory
      { url, limit, onExceed, threshold := threshold.map .real } = .ok config)
    (hconnect : w.connect config.serverUrl = pure ⟨address, w.transport⟩)
    (hlimit : config.limit + 1 = 10 ^ Numeral.maxDigits) :
    (w.similar threshold limit onExceed url).run s =
      (.error (.defect (.misfit (.tooManyDigits none))), s.told (askedLines address config)) := by
  obtain ⟨hthreshold, hpos, -⟩ := ScanConfig.usable_of_resolve hconfig
  obtain ⟨text, htext, -⟩ := Service.exists_numberText hthreshold
  have hasked : ∀ s : Shell (Service Float τ),
      (ask ((Connection.mk address w.transport).findPairs config.threshold
        (config.limit + 1))).run s = (.error (.defect (.misfit (.tooManyDigits none))), s) := by
    intro s
    have hlong : ¬ Numeral.IsShort (config.limit + 1) := by
      rw [Numeral.isShort_iff_lt (by omega)]
      omega
    have hfields : Demand.boundFields config.threshold (config.limit + 1) =
        .error (.tooManyDigits none) := by
      rw [Demand.boundFields, htext, Json.intText_of_not_isShort hlong]
      rfl
    have hcall : (Connection.mk address w.transport).findPairs config.threshold
        (config.limit + 1) s = (.error (.unbounded (.tooManyDigits none)), s) := by
      simp only [findPairs, Demand.findPairs, Demand.within, hfields, Except.map, callOf]
    rw [run_ask, hcall]
    rfl
  rw [run_similar_asking hconfig hconnect (by omega), run_bind_of_error (hasked _)]

/-- A limit on a command line. -/
theorem read_limit {x : String} {n : Int} (hx : Numeral.int? x = some n) :
    Line.read ["similar", "-l", x] =
      .command none .similar (.ok (.instruction (.similar none (some n) none none))) := by
  have hwords : wordsOf Name.similar.switches true ["-l", x] = .ok ⟨[(.limit, x)], []⟩ := rfl
  have hread : Line.read ["similar", "-l", x] =
      .command none .similar (askedOf .similar ["-l", x]) := rfl
  rw [hread, askedOf, hwords]
  simp [Except.bind, Words.has, misuseIn, Words.value?, misuseOf, hx, instructionOf,
    plainInstruction, bind, pure, Except.pure]

private theorem run_huge {limit : Int} (hpos : 1 ≤ limit)
    (hsucc : limit + 1 = 10 ^ Numeral.maxDigits) {s : Shell (Service Float Int)}
    (hs : s = shellOf ["f", "g"]) :
    besideService.run ["similar", "-l", toString limit] s =
      (.defect (.misfit (.tooManyDigits none)), (s.logged (.level .warning)).told
        ["Using server: http://localhost:3000",
          "Finding most similar pairs (threshold: 0.8, limit: " ++ toString limit ++ ")..."]) := by
  subst hs
  have hread : Numeral.int? (toString limit) = some limit :=
    int?_toString (by omega) (by omega)
  have hconfig := resolve_limit hpos none (by simp) ["f", "g"]
  have hrun : (besideService.similar none (some limit) none none).run
      ((shellOf ["f", "g"]).logged (.level .warning)) = _ := run_similar_of_huge hconfig rfl hsucc
  have htext : askedLines "http://localhost:3000"
      ((ScanConfig.default .builtIn).override { limit := some limit }) =
      ["Using server: http://localhost:3000",
        "Finding most similar pairs (threshold: 0.8, limit: " ++ toString limit ++ ")..."] := by
    have hthreshold : (Number.real 0.8).text = "0.8" := by decide +kernel
    change ["Using server: http://localhost:3000", "Finding most similar pairs (threshold: " ++
      (Number.real 0.8).text ++ ", limit: " ++ toString limit ++ ")..."] = _
    rw [hthreshold]
    rfl
  unfold Surroundings.run
  rw [read_limit hread, run_command besideService none (by decide), Surroundings.perform]
  simp only [Option.getD_none, hrun]
  exact congrArg (fun lines => (Exit.defect (.misfit (.tooManyDigits none)),
    ((shellOf ["f", "g"]).logged (.level .warning)).told lines)) htext

/-- The one pair of two records is within a limit of 4300 nines, but is not told. -/
theorem run_ends_at_huge_limit :
    let limit : Int := 10 ^ Numeral.maxDigits - 1
    let s := shellOf ["f", "g"]
    1 ≤ limit ∧ s.server.Answerable ∧ (∀ r ∈ s.server.store.written.all, r.vector.IsFinite) ∧
      (Similarity.ranking 0.8 s.server.store.written.all).length = 1 ∧
      ∃ s', besideService.run ["similar", "-l", toString limit] s =
          (.defect (.misfit (.tooManyDigits none)), s') ∧
        s'.output = withLines "" ["Using server: http://localhost:3000",
          "Finding most similar pairs (threshold: 0.8, limit: " ++ toString limit ++ ")..."] := by
  intro limit s
  have hten : (10 : Int) ≤ 10 ^ Numeral.maxDigits := le_self_pow₀ (by decide) (by decide)
  have hpos : 1 ≤ limit := Int.le_sub_one_of_lt (lt_of_lt_of_le (by decide) hten)
  have hsucc : limit + 1 = 10 ^ Numeral.maxDigits := Int.sub_add_cancel _ _
  have hs : s.server.Answerable := ⟨rfl, rfl, by decide +kernel⟩
  have hlength : (Similarity.ranking 0.8 s.server.store.written.all).length = 1 :=
    (Similarity.isRanking_ranking _ _).perm.length_eq.trans (by decide +kernel)
  refine ⟨hpos, hs, by decide +kernel, hlength, ?_⟩
  -- the digits of the limit do not matter from here on
  clear_value limit
  exact ⟨_, run_huge hpos hsucc rfl, rfl⟩

end Asking

end CodeTwins.Command
