import Mathlib.Data.List.TakeWhile
import Sift.Command
import Sift.Proofs.Command.Arguments
import Sift.Proofs.Instant.Shift
import Sift.Proofs.Matcher.InvalidPattern
import Sift.Proofs.RuleFile
import Sift.Proofs.Text.Lines
import Sift.Proofs.Vault

/-!
# What the command reports

A well-formed call (`IsCall`) gives up with code 2 and prints nothing exactly if there is no rule,
the query does not compile under it, or a vault is to be searched for a pattern that cannot be read
(`GivesUp`).  Otherwise it prints the filter, or it lists the files that fit: of the paths that it
looks at (`AreCandidates`), it shows each whose document the matcher accepts (`HasMatch`), as often
as it stands there and in the same order, without the vault's own path (`Shows`).  All of this is
`run_reports`.

Two things keep a call from looking at all paths.  From an input, the paths of all lines are looked
at if the lines are UTF-8, but a line that is not ends the reading, so notes that are named behind
it are missed.  And a directory whose name is a dash is not walked, unless something stands before
the dash, since a dash stands for the input (`run_misses_notes`).
-/

namespace Sift

namespace Command

/-! ## Giving up -/

/-- The rule that a call uses: that of its rule file, which is there and is UTF-8, or the empty one
    without a rule file. -/
def UsesRule (files : FileSystem) (rule : Rule) : Option Path → Prop
  | none => rule = {}
  | some path => ∃ content text, files.read? path = some content ∧
      String.fromUTF8? content = some text ∧ RuleFile.IsRuleFile text rule

/-- A call for which there is no answer. -/
inductive GivesUp (around : Surroundings) (arguments : Arguments) : Prop
  /-- The rule file cannot be read, or is no rule. -/
  | rules (h : ¬ ∃ rule, UsesRule around.files rule arguments.rules)
  /-- The query has no filter under the rule. -/
  | query {rule : Rule} {error : QueryError} (hrule : UsesRule around.files rule arguments.rules)
      (h : Filter.compile rule around.now arguments.query = .error error)
  /-- A vault is to be searched, and the filter has a pattern that cannot be read. -/
  | pattern {rule : Rule} {filter : Filter} {vault : Path} {pattern : String}
      (hrule : UsesRule around.files rule arguments.rules)
      (hfilter : Filter.compile rule around.now arguments.query = .ok filter)
      (hvault : arguments.vault = some vault) (hmem : pattern ∈ filter.patterns)
      (h : Pattern.parse? pattern = none)

/-- A rule file is loaded exactly if it is there, is UTF-8 and is a rule file. -/
private theorem load_eq_ok_iff {content : Option ByteArray} {rule : Rule} :
    RuleFile.load content = .ok rule ↔ ∃ bytes text, content = some bytes ∧
      String.fromUTF8? bytes = some text ∧ RuleFile.IsRuleFile text rule := by
  unfold RuleFile.load
  -- a file that is missing and one that is not text fail alike
  cases htext : content.bind String.fromUTF8? with
  | none =>
    constructor
    · intro h
      cases h
    · rintro ⟨bytes, text, rfl, hbytes, -⟩
      rw [Option.bind_some, hbytes] at htext
      cases htext
  | some text =>
    obtain ⟨bytes, rfl, hbytes⟩ := Option.bind_eq_some_iff.mp htext
    simp only [← RuleFile.parse?_eq_some_iff]
    cases hparse : RuleFile.parse? text <;> simp [hbytes, hparse]

/-- The rule that is loaded is the one that the call uses. -/
private theorem loadRule_eq_ok_iff {files : FileSystem} {rules : Option Path} {rule : Rule} :
    loadRule files rules = .ok rule ↔ UsesRule files rule rules := by
  cases rules with
  | none => simp [loadRule, UsesRule, eq_comm]
  | some path => rw [loadRule, mapError_eq_ok_iff, load_eq_ok_iff, UsesRule]

section

variable {around : Surroundings} {arguments : Arguments}

/-- The outcome of a call that has a filter. -/
inductive Answers (around : Surroundings) (arguments : Arguments) (filter : Filter) : Outcome → Prop
  | filter (hvault : arguments.vault = none) : Answers around arguments filter
      ⟨0, printed [if arguments.pretty then filter.toJson.pretty else filter.text], none⟩
  | list {vault : Path} {matcher : Matcher} (hvault : arguments.vault = some vault)
      (hmatcher : Matcher.ofFilter filter = .ok matcher) :
      Answers around arguments filter (listMatches around arguments.stdin vault matcher)

/-- A call has an answer if each of its steps succeeds. -/
private theorem search_eq_ok_iff {outcome : Outcome} :
    search around arguments = .ok outcome ↔
      ∃ rule filter, UsesRule around.files rule arguments.rules ∧
        Filter.compile rule around.now arguments.query = .ok filter ∧
        Answers around arguments filter outcome := by
  unfold search
  constructor
  -- the steps of the search, one after the other
  · intro h
    obtain ⟨rule, hrule, h⟩ := bind_eq_ok_iff.mp h
    obtain ⟨filter, hfilter, h⟩ := bind_eq_ok_iff.mp h
    refine ⟨rule, filter, loadRule_eq_ok_iff.mp hrule, mapError_eq_ok_iff.mp hfilter, ?_⟩
    cases hvault : arguments.vault with
    | none =>
      rw [hvault] at h
      cases h
      exact .filter hvault
    | some vault =>
      rw [hvault] at h
      obtain ⟨matcher, hmatcher, h⟩ := bind_eq_ok_iff.mp h
      cases h
      exact .list hvault (mapError_eq_ok_iff.mp hmatcher)
  · rintro ⟨rule, filter, hrule, hfilter, hanswer⟩
    refine bind_eq_ok_iff.mpr ⟨rule, loadRule_eq_ok_iff.mpr hrule, ?_⟩
    refine bind_eq_ok_iff.mpr ⟨filter, mapError_eq_ok_iff.mpr hfilter, ?_⟩
    cases hanswer with
    | filter hvault =>
      rw [hvault]
      rfl
    | list hvault hmatcher =>
      rw [hvault]
      exact bind_eq_ok_iff.mpr ⟨_, mapError_eq_ok_iff.mpr hmatcher, rfl⟩

/-- A rule file writes one rule. -/
private theorem usesRule_unique {files : FileSystem} {rules : Option Path} {rule rule' : Rule}
    (h : UsesRule files rule rules) (h' : UsesRule files rule' rules) : rule = rule' :=
  Except.ok.inj ((loadRule_eq_ok_iff.mpr h).symm.trans (loadRule_eq_ok_iff.mpr h'))

/-- A call has an outcome exactly if it does not give up. -/
private theorem exists_search_iff :
    (∃ outcome, search around arguments = .ok outcome) ↔ ¬ GivesUp around arguments := by
  simp only [search_eq_ok_iff]
  constructor
  · rintro ⟨outcome, rule, filter, hrule, hfilter, hanswer⟩ hgives
    -- rule and filter are determined, so each reason to give up meets a step that succeeded
    cases hgives with
    | rules h => exact h ⟨rule, hrule⟩
    | query hrule' h =>
      rw [usesRule_unique hrule' hrule, hfilter] at h
      cases h
    | pattern hrule' hfilter' hvault hmem h =>
      rw [usesRule_unique hrule' hrule, hfilter] at hfilter'
      cases hfilter'
      cases hanswer with
      | filter hnone => cases hnone.symm.trans hvault
      | list _ hmatcher =>
        exact (Matcher.exists_ofFilter_iff_patterns filter).mp ⟨_, hmatcher⟩ _ hmem h
  · intro hgives
    -- a step that failed would be a reason to give up
    have hrules : ∃ rule, UsesRule around.files rule arguments.rules :=
      Classical.byContradiction fun h => hgives (.rules h)
    obtain ⟨rule, hrule⟩ := hrules
    cases hfilter : Filter.compile rule around.now arguments.query with
    | error error => exact absurd (.query hrule hfilter) hgives
    | ok filter =>
      cases hvault : arguments.vault with
      | none => exact ⟨_, rule, filter, hrule, hfilter, .filter hvault⟩
      | some vault =>
        obtain ⟨matcher, hmatcher⟩ := (Matcher.exists_ofFilter_iff_patterns filter).mpr
          fun pattern hmem hnone => hgives (.pattern hrule hfilter hvault hmem hnone)
        exact ⟨_, rule, filter, hrule, hfilter, .list hvault hmatcher⟩

end

/-! ## Listing -/

/-- The path that a line of the input names. -/
def path? (line : List UInt8) : Option Path :=
  (Text.name? line).map fun name => ⟨String.ofList name⟩

/-- The lines of an input. -/
def inputLines (input : ByteArray) : List (List UInt8) := input.data.toList.splitOn 10

/-- The paths that are read from some lines.  A line that is not UTF-8 ends the reading. -/
structure AreRead (lines : List (List UInt8)) (paths : List Path) : Prop where
  all : (∀ line ∈ lines, Text.IsUtf8 line) → paths = lines.filterMap path?
  before : ∀ front line rest, lines = front ++ line :: rest → (∀ line ∈ front, Text.IsUtf8 line) →
    ¬ Text.IsUtf8 line → paths = front.filterMap path?

/-- The notes that a walk of a vault meets, in the order of paths.  A dash is not walked. -/
structure AreWalked (files : FileSystem) (vault : Path) (paths : List Path) : Prop where
  sorted : paths.Pairwise fun a b => a.le b = true
  notes : Vault.isDash vault = false →
    paths.Perm (((Vault.entries files vault).filter Vault.Entry.isNote).map (·.path))
  dash : Vault.isDash vault = true → paths = []

/-- The paths that a call looks at: those that the lines of the input name, in their order; or else
    the notes of the vault. -/
def AreCandidates (around : Surroundings) (vault : Path) (paths : List Path) : Bool → Prop
  | true => AreRead (inputLines around.input) paths
  | false => AreWalked around.files vault paths

/-- A file has a document that a matcher accepts. -/
def HasMatch (files : FileSystem) (matcher : Matcher) (path : Path) : Prop :=
  ∃ content document, files.read? path = some content ∧
    Frontmatter.document? content = some document ∧ matcher.accepts document = true

/-- A path is shown by its components behind those of the vault, as they are written in it, if it
    begins with those of the vault, and else as it is. -/
def Shows (vault path : Path) (text : String) : Prop :=
  (vault.components <+: path.components →
    path.components = vault.components ++ (Path.mk text).components ∧
      text.toList <:+: path.text.toList) ∧
  (¬ vault.components <+: path.components → text = path.text)

/-- Among the paths that a call looks at, those of the files that fit, as often as they stand there
    and in the same order. -/
structure Finds (around : Surroundings) (stdin : Bool) (vault : Path) (matcher : Matcher)
    (paths found : List Path) : Prop where
  candidates : AreCandidates around vault paths stdin
  sublist : found.Sublist paths
  fit : ∀ path ∈ found, HasMatch around.files matcher path
  count : ∀ path, HasMatch around.files matcher path → found.count path = paths.count path

/-- The paths of an input are those that its lines name, up to the first that is not UTF-8. -/
private theorem inputPaths_eq (input : ByteArray) :
    inputPaths input =
      ((inputLines input).takeWhile (decide <| Text.IsUtf8 ·)).filterMap path? := by
  rw [inputPaths, Text.filter_map_trim_lines, List.map_filterMap]
  rfl

/-- So they are what is read from its lines. -/
private theorem areRead_inputPaths (input : ByteArray) :
    AreRead (inputLines input) (inputPaths input) := by
  rw [inputPaths_eq]
  refine ⟨fun hall => ?_, fun front line rest hlines hfront hline => ?_⟩
  · rw [List.takeWhile_eq_self_iff.mpr fun line hmem => decide_eq_true (hall line hmem)]
  · rw [hlines, List.takeWhile_append_of_pos fun line hmem => decide_eq_true (hfront line hmem),
      List.takeWhile_cons_of_neg (by simpa using hline), List.append_nil]

/-- The list of a vault is what a walk of it meets. -/
private theorem areWalked_list (files : FileSystem) (vault : Path) :
    AreWalked files vault (Vault.list files vault) where
  sorted := Vault.sorted_notes _
  notes hdash := by
    rw [Vault.list, Vault.met, hdash]
    exact Vault.notes_perm _
  dash hdash := by
    rw [Vault.list, Vault.met, if_pos hdash, Vault.notes, List.filter_nil, List.map_nil,
      List.mergeSort_nil]

/-- The paths that are looked at are the candidates. -/
private theorem areCandidates_candidates (around : Surroundings) (stdin : Bool) (vault : Path) :
    AreCandidates around vault (candidates around stdin vault) stdin := by
  cases stdin with
  | true => exact areRead_inputPaths around.input
  | false => exact areWalked_list around.files vault

/-- A path fits if its file has a document that the matcher accepts. -/
private theorem fits_iff {files : FileSystem} {matcher : Matcher} {path : Path} :
    fits files matcher path = true ↔ HasMatch files matcher path := by
  unfold fits HasMatch
  rw [Option.any_eq_true]
  constructor
  · rintro ⟨document, hdocument, haccepts⟩
    obtain ⟨content, hcontent, hdocument⟩ := Option.bind_eq_some_iff.mp hdocument
    exact ⟨content, document, hcontent, hdocument, haccepts⟩
  · rintro ⟨content, document, hcontent, hdocument, haccepts⟩
    exact ⟨document, Option.bind_eq_some_iff.mpr ⟨content, hcontent, hdocument⟩, haccepts⟩

/-- The candidates that fit are what the call finds. -/
private theorem finds_filter (around : Surroundings) (stdin : Bool) (vault : Path)
    (matcher : Matcher) :
    Finds around stdin vault matcher (candidates around stdin vault)
      ((candidates around stdin vault).filter (fits around.files matcher)) where
  candidates := areCandidates_candidates around stdin vault
  sublist := List.filter_sublist
  fit := fun _ hmem => fits_iff.mp (List.mem_filter.mp hmem).2
  count := fun _ hmatch => List.count_filter (fits_iff.mpr hmatch)

/-- A path below the vault is shown without the vault, and any other as it is. -/
private theorem shows_shown {vault : Path} (hvault : vault.text ≠ "") (path : Path) :
    Shows vault path (shown vault path) := by
  constructor
  · intro h
    obtain ⟨rest, hbelow, hcomponents, hinfix⟩ := Path.exists_below? hvault h
    rw [shown, hbelow]
    exact ⟨hcomponents, hinfix⟩
  · intro h
    rw [shown, Path.below?_eq_none h]
    rfl

/-- A vault is never named by nothing. -/
private theorem vault_ne_empty {environment : String → Option String} {words : List String}
    {arguments : Arguments} {vault : Path} (h : IsCall environment words arguments)
    (hvault : arguments.vault = some vault) : vault.text ≠ "" := by
  obtain ⟨parts, -, hgives⟩ := h
  have hsettles := hgives.vault
  rw [hvault] at hsettles
  generalize parts.filterMap (Part.value? .vault) = values at hsettles
  cases hsettles with
  | word h => exact h
  | environment _ h => exact h

/-! ## Reports -/

/-- What a call reports. -/
structure Reports (around : Surroundings) (arguments : Arguments) (outcome : Outcome) : Prop where
  code_eq_two_iff : outcome.code = 2 ↔ GivesUp around arguments
  output_of_givesUp : GivesUp around arguments → outcome.output = ""
  /-- Without a vault the filter is printed. -/
  prints : ¬ GivesUp around arguments → arguments.vault = none →
    outcome.code = 0 ∧ ∃ rule filter, UsesRule around.files rule arguments.rules ∧
      Filter.compile rule around.now arguments.query = .ok filter ∧
      outcome.output =
        (if arguments.pretty then filter.toJson.pretty else filter.text) ++ "\n"
  /-- With a vault the paths that fit are listed. -/
  lists : ¬ GivesUp around arguments → ∀ vault, arguments.vault = some vault →
    ∃ rule filter matcher, UsesRule around.files rule arguments.rules ∧
      Filter.compile rule around.now arguments.query = .ok filter ∧
      Matcher.ofFilter filter = .ok matcher ∧
      ∃ paths found, Finds around arguments.stdin vault matcher paths found ∧
        outcome.output = printed (found.map (shown vault)) ∧
        (∀ path ∈ found, Shows vault path (shown vault path)) ∧
        outcome.code = if found = [] then 1 else 0

section

variable {around : Surroundings} {arguments : Arguments}

/-- A call that gives up reports its failure. -/
private theorem reports_ofFailure (failure : Failure) (h : GivesUp around arguments) :
    Reports around arguments (.ofFailure failure) where
  code_eq_two_iff := ⟨fun _ => h, fun _ => rfl⟩
  output_of_givesUp := fun _ => rfl
  prints := fun hnot => absurd h hnot
  lists := fun hnot => absurd h hnot

/-- One line is printed with a line feed behind it. -/
private theorem printed_singleton (line : String) : printed [line] = line ++ "\n" := by
  simp [printed, String.join]

/-- The code says whether anything was found. -/
private theorem code_listMatches (stdin : Bool) (vault : Path) (matcher : Matcher) :
    (listMatches around stdin vault matcher).code =
      if (candidates around stdin vault).filter (fits around.files matcher) = [] then 1 else 0 := by
  simp only [listMatches, List.isEmpty_iff]

/-- A call that does not give up reports its answer. -/
private theorem reports_of_answers {rule : Rule} {filter : Filter} {outcome : Outcome}
    (hempty : ∀ vault, arguments.vault = some vault → vault.text ≠ "")
    (h : ¬ GivesUp around arguments) (hrule : UsesRule around.files rule arguments.rules)
    (hfilter : Filter.compile rule around.now arguments.query = .ok filter)
    (hanswer : Answers around arguments filter outcome) : Reports around arguments outcome := by
  -- the code 2 is kept for calls that give up
  have hcode : outcome.code ≠ 2 := by
    cases hanswer with
    | filter hvault => exact Nat.zero_ne_add_one 1
    | list hvault hmatcher =>
      rw [code_listMatches]
      split <;> decide
  refine ⟨⟨fun htwo => absurd htwo hcode, fun hgives => absurd hgives h⟩,
    fun hgives => absurd hgives h, fun _ hnone => ?_, fun _ vault hsome => ?_⟩
  · cases hanswer with
    | filter hvault => exact ⟨rfl, rule, filter, hrule, hfilter, printed_singleton _⟩
    | list hvault hmatcher => cases hnone.symm.trans hvault
  · cases hanswer with
    | filter hvault => cases hvault.symm.trans hsome
    | list hvault hmatcher =>
      cases hvault.symm.trans hsome
      exact ⟨rule, filter, _, hrule, hfilter, hmatcher, _, _, finds_filter _ _ _ _, rfl,
        fun path _ => shows_shown (hempty vault hvault) path, code_listMatches _ _ _⟩

/-- A well-formed call is answered by its search. -/
private theorem run_of_search {words : List String} {outcome : Outcome}
    (h : IsCall around.environment words arguments)
    (hsearch : search around arguments = .ok outcome) : run around words = outcome := by
  unfold run
  rw [parse_eq_search_iff.mpr h]
  dsimp only
  rw [hsearch]

/-- A call with a vault lists what fits. -/
private theorem run_of_matcher {words : List String} {rule : Rule} {filter : Filter} {vault : Path}
    {matcher : Matcher} (h : IsCall around.environment words arguments)
    (hrule : UsesRule around.files rule arguments.rules)
    (hfilter : Filter.compile rule around.now arguments.query = .ok filter)
    (hvault : arguments.vault = some vault) (hmatcher : Matcher.ofFilter filter = .ok matcher) :
    run around words = listMatches around arguments.stdin vault matcher :=
  run_of_search h (search_eq_ok_iff.mpr ⟨rule, filter, hrule, hfilter, .list hvault hmatcher⟩)

end

/-- A well-formed call reports faithfully: with code 2 and no output if it gives up, and else with
    the filter or with the list of the paths that fit. -/
theorem run_reports {around : Surroundings} {words : List String} {arguments : Arguments}
    (h : IsCall around.environment words arguments) :
    Reports around arguments (run around words) := by
  cases hsearch : search around arguments with
  | error failure =>
    -- a call that does not give up has an outcome
    have hgives : GivesUp around arguments := by
      refine Classical.byContradiction fun hnot => ?_
      obtain ⟨outcome, hok⟩ := exists_search_iff.mpr hnot
      cases hsearch.symm.trans hok
    unfold run
    rw [parse_eq_search_iff.mpr h]
    dsimp only
    rw [hsearch]
    exact reports_ofFailure failure hgives
  | ok outcome =>
    rw [run_of_search h hsearch]
    obtain ⟨rule, filter, hrule, hfilter, hanswer⟩ := search_eq_ok_iff.mp hsearch
    exact reports_of_answers (fun _ => vault_ne_empty h) (exists_search_iff.mp ⟨_, hsearch⟩) hrule
      hfilter hanswer

/-! A rule file, and a vault with three notes. -/

/-- A note with a field `x`. -/
def note (x : String) : Tree := .file ("---\nx: " ++ x ++ "\n---\n").toUTF8

/-- The files. -/
def shelf : FileSystem :=
  ⟨.directory [("r.yml", .file "isString: [z]".toUTF8),
    ("v", .directory [("b.md", note "yes"), ("d", .directory [("c.md", note "[w, y]")]),
      ("a.md", note "y")])], []⟩

/-- What a call sees that is given an input. -/
def shelved (input : ByteArray) : Surroundings := ⟨fun _ => none, shelf, input, .noon⟩

/-- The names in the files are proper and all different. -/
theorem proper_shelf : shelf.root.Proper := by
  have hfile : ∀ content, (Tree.file content).Proper := .file
  have hnote : ∀ x, (note x).Proper := fun x => .file _
  have hd : (Tree.directory [("c.md", note "[w, y]")]).Proper :=
    .directory (by decide) (by decide) (by simp [hnote])
  have hv : (Tree.directory [("b.md", note "yes"), ("d", .directory [("c.md", note "[w, y]")]),
      ("a.md", note "y")]).Proper :=
    .directory (by decide) (by decide) (by simp [hnote, hd])
  exact .directory (by decide) (by decide) (by simp [hfile, hv])

/-- The notes of the vault, in their order. -/
private theorem list_shelf : Vault.list shelf ⟨"v"⟩ = [⟨"v/a.md"⟩, ⟨"v/b.md"⟩, ⟨"v/d/c.md"⟩] := by
  have hperm : [⟨"v/a.md"⟩, ⟨"v/b.md"⟩, ⟨"v/d/c.md"⟩].Perm
      (((Vault.met shelf ⟨"v"⟩).filter Vault.Entry.isNote).map (·.path)) := by
    decide +kernel
  rw [Vault.list]
  exact (Vault.eq_notes (Vault.distinct_met proper_shelf _) (hperm.trans (Vault.notes_perm _).symm)
    (by decide +kernel)).symm

/-- The rule file lists one string field. -/
private theorem usesRule_shelf : UsesRule shelf { isString := ["z"] } (some ⟨"r.yml"⟩) := by
  refine ⟨"isString: [z]".toUTF8, "isString: [z]", rfl, by decide +kernel, ?_⟩
  exact RuleFile.parse?_eq_some_iff.mp (by decide +kernel)

/-- The vault is walked.  By the rule file `x` is searched for a whole text. -/
private theorem output_walk (input : ByteArray) :
    (run (shelved input) ["--rules=r.yml", "--vault=v", "x:y"]).output = "a.md\nd/c.md\n" := by
  have hcall : IsCall (shelved input).environment ["--rules=r.yml", "--vault=v", "x:y"]
      ⟨some ⟨"r.yml"⟩, some ⟨"v"⟩, false, false, "x:y"⟩ := parse_eq_search_iff.mp rfl
  rw [run_of_matcher hcall usesRule_shelf rfl rfl rfl]
  show printed (((Vault.list shelf ⟨"v"⟩).filter (fits shelf _)).map _) = _
  rw [list_shelf]
  decide +kernel

/-- Notes are listed by a walk and from the input, where one is named twice.  A pattern that cannot
    be read stops a call only if there is a vault. -/
theorem run_reports_shelf :
    let around := shelved " v/a.md\r\n\nb.md\nv/a.md".toUTF8
    (Reports around ⟨some ⟨"r.yml"⟩, some ⟨"v"⟩, false, false, "x:y"⟩
        (run around ["--rules=r.yml", "--vault=v", "x:y"]) ∧
      (run around ["--rules=r.yml", "--vault=v", "x:y"]).output = "a.md\nd/c.md\n") ∧
    (Reports around ⟨none, some ⟨"v"⟩, true, false, "x=y"⟩
        (run around ["--vault", "v", "--stdin", "x=y"]) ∧
      (run around ["--vault", "v", "--stdin", "x=y"]).output = "a.md\na.md\n") ∧
    (Reports around ⟨none, some ⟨"v"⟩, false, false, "x~["⟩
        (run around ["--vault", "v", "x~["]) ∧
      (run around ["--vault", "v", "x~["]).code = 2) ∧
    Reports around ⟨some ⟨"r.yml"⟩, none, false, true, "x~["⟩
        (run around ["--pretty", "--rules", "r.yml", "x~["]) ∧
      (run around ["--pretty", "--rules", "r.yml", "x~["]).output =
        "\x7b\n  \"x\": \x7b\n    \"$regex\": \"[\"\n  \x7d\n\x7d\n" := by
  intro around
  -- the pattern of the last two calls cannot be read
  have hpattern : (Pattern.parse? "[").isNone = true := by decide +kernel
  have hstops : Reports around ⟨none, some ⟨"v"⟩, false, false, "x~["⟩
      (run around ["--vault", "v", "x~["]) := run_reports (parse_eq_search_iff.mp rfl)
  refine ⟨⟨run_reports (parse_eq_search_iff.mp rfl), output_walk _⟩,
    ⟨run_reports (parse_eq_search_iff.mp rfl), by decide +kernel⟩, ⟨hstops, ?_⟩,
    run_reports (parse_eq_search_iff.mp rfl), by decide +kernel⟩
  exact hstops.code_eq_two_iff.mpr
    (.pattern rfl rfl rfl (List.mem_singleton_self _) (Option.isNone_iff_eq_none.mp hpattern))

/-- What a call sees whose only files are a note in a directory with a given name. -/
def lone (name : String) : Surroundings :=
  ⟨fun _ => none, ⟨.directory [(name, .directory [("a.md", note "y")])], []⟩, .empty, .noon⟩

/-- A note that is there and fits is missed in two ways.  Two inputs have lines that name the same
    note, but before the name in the first of them stands a line that is not UTF-8: then the note is
    not listed.  And it is not listed if it is in a vault that is named by a dash. -/
theorem run_misses_notes :
    (let torn := shelved ⟨#[0xFF, 10] ++ "v/a.md".toUTF8.data⟩
      let whole := shelved "v/a.md".toUTF8
      (inputLines torn.input).filterMap path? = (inputLines whole.input).filterMap path? ∧
        ((run whole ["--vault", "v", "--stdin", "x=y"]).output,
          (run whole ["--vault", "v", "--stdin", "x=y"]).code) = ("a.md\n", 0) ∧
        ((run torn ["--vault", "v", "--stdin", "x=y"]).output,
          (run torn ["--vault", "v", "--stdin", "x=y"]).code) = ("", 1)) ∧
    (∀ name ∈ ["v", "-"], (Vault.entries (lone name).files ⟨name⟩).map (·.path) =
        [⟨name⟩, Path.join ⟨name⟩ "a.md"]) ∧
      ((run (lone "v") ["--vault", "v", "x=y"]).output,
        (run (lone "v") ["--vault", "v", "x=y"]).code) = ("a.md\n", 0) ∧
      ((run (lone "-") ["--vault", "-", "x=y"]).output,
        (run (lone "-") ["--vault", "-", "x=y"]).code) = ("", 1) := by
  decide +kernel

end Command

end Sift
