import FilterBook.CommandLine
import FilterBook.Http
import FilterBook.Proofs.Outcome
import FilterBook.Proofs.Printing

/-!
A definition in JSON comes to its query in several ways: through the library, with or without a
reason for a rejection, as a file on the command line, and in the body of a request. All of them
succeed for the same texts and carry the same query, and all that check a definition accept the same
texts.
-/

namespace FilterBook

open Outcome

/-- A text as each of the ways takes it: by itself, as the content of a file whose name ends in
`json` and is no flag, whatever the service of the command line does, and as the body of a request,
not too large and said to be JSON. -/
structure Delivery where
  text : String
  path : String
  files : CommandLine.Files
  service : CommandLine.Service
  contentType : String
  mediaType : MediaType
  path_json : Format.ofPath path = .json
  path_plain : CommandLine.isFlagWord path = false
  file_eq : files path = some text.toUTF8
  contentType_eq : MediaType.ofText? contentType = some mediaType
  mediaType_json : mediaType.isJson = true
  size_le : text.utf8ByteSize ≤ Http.greatestBody

namespace Delivery

/-- A text in a file of its own, and in a request with the plainest header. -/
def ofText (text : String) (h : text.utf8ByteSize ≤ Http.greatestBody) : Delivery where
  text := text
  path := "x.json"
  files := fun _ => some text.toUTF8
  service := .offline
  contentType := "application/json"
  mediaType := ⟨"application".toList, "json".toList, none⟩
  path_json := by decide
  path_plain := by decide
  file_eq := rfl
  contentType_eq := by decide
  mediaType_json := by decide
  size_le := h

variable (t : Delivery)

def definition : Except Error Definition :=
  Definition.ofText .json t.text

def built : Except Error Query :=
  t.definition >>= Definition.build

def checked : Except Error Unit :=
  t.definition >>= Definition.check

/-- A text that cannot be read is told apart from a definition without a query. -/
def compiled : Except Error (Except Rejected Query) :=
  t.definition.map Definition.compile

def compileWords (pretty : Bool) : List String :=
  ["compile", "--file", t.path] ++ if pretty then ["--pretty"] else []

def compileRun (pretty : Bool) : CommandLine.Outcome :=
  CommandLine.run t.files (t.compileWords pretty) t.service

def validateWords : List String :=
  ["validate", "--file", t.path]

def validateRun : CommandLine.Outcome :=
  CommandLine.run t.files t.validateWords t.service

def request (route : Http.Route) : Http.Request where
  method := .post
  target := route.path
  contentType? := some t.contentType
  body := t.text

def posted (route : Http.Route) : Http.Response :=
  Http.respond (t.request route)

end Delivery

namespace CommandLine

variable {path : String} {name : Name}

/-- The word after the flag of a file is the file's path, unless it is a flag itself. -/
theorem readWords_file (hpath : isFlagWord path = false)
    (hname : readWord name.flags [] "--file" = .ok (.value .file [])) (rest : List String) :
    readWords name.flags [] ("--file" :: path :: rest) =
      readWords name.flags [(.file, path)] rest := by
  have hadd : Given.add [] .file path = .ok [(.file, path)] := rfl
  rw [readWords, if_neg (by decide), hname]
  simp only [hpath, hadd, Bool.false_eq_true, if_false]

theorem ofWords_compile (hpath : isFlagWord path = false) (pretty : Bool) :
    Command.ofWords (["compile", "--file", path] ++ if pretty then ["--pretty"] else []) =
      .ok (.compile path pretty) := by
  have hread (rest : List String) :
      Command.ofWords ("compile" :: rest) = readCommand .compile rest := rfl
  rw [List.cons_append, hread, readCommand, List.cons_append, List.cons_append,
    readWords_file hpath rfl]
  cases pretty with
  | false => rfl
  | true => rfl

theorem ofWords_validate (hpath : isFlagWord path = false) :
    Command.ofWords ["validate", "--file", path] = .ok (.validate path) := by
  have hread (rest : List String) :
      Command.ofWords ("validate" :: rest) = readCommand .validate rest := rfl
  rw [hread, readCommand, readWords_file hpath rfl]
  rfl

/-- A run that was asked rightly and fails says why on the second stream only. -/
def Outcome.FailsQuietly (outcome : Outcome) : Prop :=
  outcome.code ≠ 0 → outcome.code = 1 ∧ outcome.stdout = ""

theorem Outcome.failsQuietly_success (text : String) : (success text).FailsQuietly :=
  fun h => absurd rfl h

theorem Outcome.failsQuietly_failure (message : String) : (failure message).FailsQuietly :=
  fun _ => ⟨rfl, rfl⟩

theorem Outcome.failsQuietly_silent : silent.FailsQuietly :=
  fun h => absurd rfl h

theorem failsQuietly_withDefinition {go : Definition → Outcome} (hgo : ∀ d, (go d).FailsQuietly)
    (files : Files) (file : String) : (withDefinition files file go).FailsQuietly := by
  unfold withDefinition
  split
  · exact hgo _
  · exact Outcome.failsQuietly_failure _

theorem failsQuietly_serveOutcome (served : Except String Unit) :
    (serveOutcome served).FailsQuietly := by
  cases served with
  | ok _ => exact Outcome.failsQuietly_silent
  | error reason => exact Outcome.failsQuietly_failure reason

theorem Command.failsQuietly_run (files : Files) (service : Service) (command : Command) :
    (command.run files service).FailsQuietly := by
  cases command with
  | compile file pretty =>
      refine failsQuietly_withDefinition (fun d => ?_) files file
      unfold compileOutcome
      split
      · exact Outcome.failsQuietly_success _
      · exact Outcome.failsQuietly_failure _
  | validate file =>
      refine failsQuietly_withDefinition (fun d => ?_) files file
      unfold validateOutcome
      split
      · exact Outcome.failsQuietly_success _
      · exact Outcome.failsQuietly_failure _
  | schema => exact Outcome.failsQuietly_success _
  | serve port? => exact failsQuietly_serveOutcome (service port?)
  | help name? => exact Outcome.failsQuietly_success _
  | version => exact Outcome.failsQuietly_success _

theorem run_of_ofWords {words : List String} {command : Command}
    (h : Command.ofWords words = .ok command) (files : Files) (service : Service) :
    run files words service = command.run files service := by
  rw [run, h]

end CommandLine

theorem Http.Refusal.status_ne (r : Refusal) : r.response.status ≠ 200 := by
  cases r <;> decide

theorem Http.Route.ofTarget?_path (route : Route) : ofTarget? route.path = some route := by
  cases route <;> decide

namespace Delivery

variable (t : Delivery)

theorem ofFile_eq : Definition.ofFile t.path (t.files t.path) = t.definition := by
  have htext : String.fromUTF8? t.text.toUTF8 = some t.text := dif_pos t.text.isValidUTF8
  rw [Definition.ofFile, t.file_eq, Option.bind_some, htext, t.path_json]
  rfl

theorem compileRun_eq (pretty : Bool) :
    t.compileRun pretty =
      CommandLine.withDefinition t.files t.path (CommandLine.compileOutcome pretty) :=
  CommandLine.run_of_ofWords (CommandLine.ofWords_compile t.path_plain pretty) t.files t.service

theorem validateRun_eq :
    t.validateRun = CommandLine.withDefinition t.files t.path CommandLine.validateOutcome :=
  CommandLine.run_of_ofWords (CommandLine.ofWords_validate t.path_plain) t.files t.service

theorem isJson_request (route : Http.Route) : (t.request route).isJson = true := by
  simp only [Http.Request.isJson, request, Option.bind_some, t.contentType_eq, t.mediaType_json]

/-- The reader of a request takes the same definition, or refuses the text. -/
theorem definition_request (route : Http.Route) :
    (∃ d, t.definition = .ok d ∧ (t.request route).definition = .ok d) ∨
      ∃ e refusal, t.definition = .error e ∧ (t.request route).definition = .error refusal := by
  have hsize : ¬ Http.greatestBody < t.text.utf8ByteSize := Nat.not_lt.mpr t.size_le
  rw [Http.Request.definition, t.isJson_request route, definition, Definition.ofText]
  simp only [request, hsize, if_false, not_true_eq_false]
  cases Definition.ofJsonText t.text with
  | ok d => exact Or.inl ⟨d, rfl, rfl⟩
  | error fault => cases fault <;> exact Or.inr ⟨_, _, rfl, rfl⟩

theorem posted_eq (route : Http.Route) (hpost : route.serves .post = true) :
    t.posted route =
      (route.answer (t.request route)).withHeader "access-control-allow-origin" "*" := by
  have hroute : Http.Route.ofTarget? (t.request route).target = some route :=
    Http.Route.ofTarget?_path route
  have hmethod : (t.request route).method = .post := rfl
  simp only [posted, Http.respond, Http.dispatch, hroute, hmethod, hpost, reduceCtorEq, if_false,
    not_true_eq_false]

/-- How the ways to a query answer to a text. Those that tell no reason answer alike whatever the
reason is. -/
structure CompilesAlike : Prop where
  compiled_iff : (∃ query, t.compiled = .ok (.ok query)) ↔ ∃ query, t.built = .ok query
  run_iff : ∀ pretty, (t.compileRun pretty).code = 0 ↔ ∃ query, t.built = .ok query
  posted_iff : (t.posted .compile).status = 200 ↔ ∃ query, t.built = .ok query
  query : ∀ query, t.built = .ok query →
    t.compiled = .ok (.ok query) ∧
    (t.compileRun false).stdout = (Json.ofDict query).compact ++ "\n" ∧
    (t.compileRun true).stdout = (Json.ofDict query).pretty ++ "\n" ∧
    Json.squeeze .outside (t.compileRun true).stdout.toList = (Json.ofDict query).compact.toList ∧
    (t.posted .compile).body = .document (.object [("query", .ofDict query)])
  rejected : ∀ d e, t.definition = .ok d → d.build = .error e →
    t.compiled = .ok (.error {}) ∧
    (t.posted .compile).status = 422 ∧
    (t.posted .compile).body = .document (.object [("error", .string "rejected")])

/-- How those answer that check a definition and leave it at that. -/
structure ChecksAlike : Prop where
  run_iff : t.validateRun.code = 0 ↔ t.checked = .ok ()
  posted_iff : (t.posted .validate).status = 200 ↔ t.checked = .ok ()
  message : ∀ d e, t.definition = .ok d → d.check = .error e →
    (t.posted .validate).status = 422 ∧
    (t.posted .validate).body =
      .document (.object [("valid", .bool false), ("error", .string e.message)])

variable {t : Delivery} {d : Definition} {e : Error}

theorem built_of_definition (h : t.definition = .ok d) : t.built = d.build := by
  rw [built, h, ok_bind]

theorem checked_of_definition (h : t.definition = .ok d) : t.checked = d.check := by
  rw [checked, h, ok_bind]

theorem compiled_of_definition (h : t.definition = .ok d) : t.compiled = .ok d.compile := by
  rw [compiled, h]
  rfl

theorem compileRun_of_definition (h : t.definition = .ok d) (pretty : Bool) :
    t.compileRun pretty = CommandLine.compileOutcome pretty d := by
  rw [compileRun_eq, CommandLine.withDefinition, ofFile_eq, h]

theorem validateRun_of_definition (h : t.definition = .ok d) :
    t.validateRun = CommandLine.validateOutcome d := by
  rw [validateRun_eq, CommandLine.withDefinition, ofFile_eq, h]

/-- A text that is taken gets the answer that its definition gets. -/
theorem answer_of_definition (h : t.definition = .ok d) (route : Http.Route)
    (answer : Definition → Http.Response) : (t.request route).answer answer = answer d := by
  rcases t.definition_request route with ⟨other, hother, hrequest⟩ | ⟨e, _, herror, _⟩
  · obtain rfl : d = other := Except.ok.inj (h.symm.trans hother)
    rw [Http.Request.answer, hrequest]
  · rw [h] at herror
    cases herror

/-- A text that is no definition fails on every way. -/
theorem fails_of_error (h : t.definition = .error e) :
    t.built = .error e ∧ t.checked = .error e ∧ t.compiled = .error e ∧
      (∀ pretty, (t.compileRun pretty).code = 1) ∧ t.validateRun.code = 1 ∧
      (t.posted .compile).status ≠ 200 ∧ (t.posted .validate).status ≠ 200 := by
  have hrefused (route : Http.Route) (answer : Definition → Http.Response) :
      ((t.request route).answer answer).status ≠ 200 := by
    rcases t.definition_request route with ⟨d, hd, _⟩ | ⟨_, refusal, _, hrequest⟩
    · rw [h] at hd
      cases hd
    · rw [Http.Request.answer, hrequest]
      exact refusal.status_ne
  refine ⟨by rw [built, h, error_bind], by rw [checked, h, error_bind], by rw [compiled, h]; rfl,
    fun pretty => ?_, ?_, ?_, ?_⟩
  · rw [compileRun_eq, CommandLine.withDefinition, ofFile_eq, h]
    rfl
  · rw [validateRun_eq, CommandLine.withDefinition, ofFile_eq, h]
    rfl
  · rw [t.posted_eq .compile rfl]
    exact hrefused .compile _
  · rw [t.posted_eq .validate rfl]
    exact hrefused .validate _

theorem compilesAlike_of_build {query : Query} (h : t.definition = .ok d)
    (hbuild : d.build = .ok query) : t.CompilesAlike := by
  have hcompile : d.compile = .ok query := by rw [Definition.compile, hbuild]
  have hbuilt : t.built = .ok query := (built_of_definition h).trans hbuild
  have hcompiled : t.compiled = .ok (.ok query) := by rw [compiled_of_definition h, hcompile]
  have hrun (pretty : Bool) : t.compileRun pretty = .success
      (if pretty then (Json.ofDict query).pretty else (Json.ofDict query).compact) := by
    rw [compileRun_of_definition h, CommandLine.compileOutcome, hbuild]
  have hposted : t.posted .compile =
      (Http.Response.ofBody 200 (.document (.object [("query", .ofDict query)]))).withHeader
        "access-control-allow-origin" "*" := by
    rw [t.posted_eq .compile rfl, Http.Route.answer, answer_of_definition h, Http.answerCompile,
      hcompile]
  have hbuilds : ∃ query, t.built = .ok query := ⟨query, hbuilt⟩
  refine ⟨iff_of_true ⟨query, hcompiled⟩ hbuilds, fun pretty => iff_of_true ?_ hbuilds,
    iff_of_true ?_ hbuilds, ?_, ?_⟩
  · rw [hrun]
    rfl
  · rw [hposted]
    rfl
  · intro other hother
    obtain rfl : query = other := Except.ok.inj (hbuilt.symm.trans hother)
    rw [hrun, hrun, hposted]
    refine ⟨hcompiled, rfl, rfl, ?_, rfl⟩
    rw [if_pos rfl, CommandLine.Outcome.success, String.toList_append]
    exact Json.squeeze_pretty (Json.ofDict query) ['\n'] (List.forall_mem_singleton.mpr rfl)
  · intro other e hother he
    obtain rfl : d = other := Except.ok.inj (h.symm.trans hother)
    rw [hbuild] at he
    cases he

theorem compilesAlike_of_build_error (h : t.definition = .ok d) (hbuild : d.build = .error e) :
    t.CompilesAlike := by
  have hcompile : d.compile = .error {} := by rw [Definition.compile, hbuild]
  have hbuilt : t.built = .error e := (built_of_definition h).trans hbuild
  have hcompiled : t.compiled = .ok (.error {}) := by rw [compiled_of_definition h, hcompile]
  have hposted : t.posted .compile =
      (Http.Response.ofBody 422 (.document (.object [("error", .string "rejected")]))).withHeader
        "access-control-allow-origin" "*" := by
    rw [t.posted_eq .compile rfl, Http.Route.answer, answer_of_definition h, Http.answerCompile,
      hcompile]
  have hfails : ¬ ∃ query, t.built = .ok query := by simp [hbuilt]
  refine ⟨iff_of_false (by simp [hcompiled]) hfails, fun pretty => iff_of_false ?_ hfails,
    iff_of_false ?_ hfails, fun query hquery => absurd ⟨query, hquery⟩ hfails, ?_⟩
  · rw [compileRun_of_definition h, CommandLine.compileOutcome, hbuild]
    exact Nat.one_ne_zero
  · rw [hposted]
    show 422 ≠ 200
    decide
  · intro other _ _ _
    rw [hposted]
    exact ⟨hcompiled, rfl, rfl⟩

theorem compilesAlike_of_error (h : t.definition = .error e) : t.CompilesAlike := by
  obtain ⟨hbuilt, -, hcompiled, hrun, -, hposted, -⟩ := fails_of_error h
  have hfails : ¬ ∃ query, t.built = .ok query := by simp [hbuilt]
  refine ⟨iff_of_false (by simp [hcompiled]) hfails, fun pretty => iff_of_false ?_ hfails,
    iff_of_false hposted hfails, fun query hquery => absurd ⟨query, hquery⟩ hfails, ?_⟩
  · rw [hrun]
    exact Nat.one_ne_zero
  · intro d _ hd
    rw [h] at hd
    cases hd

theorem checksAlike_of_check (h : t.definition = .ok d) (hcheck : d.check = .ok ()) :
    t.ChecksAlike := by
  have hchecked : t.checked = .ok () := (checked_of_definition h).trans hcheck
  refine ⟨iff_of_true ?_ hchecked, iff_of_true ?_ hchecked, ?_⟩
  · rw [validateRun_of_definition h, CommandLine.validateOutcome, hcheck]
    rfl
  · rw [t.posted_eq .validate rfl, Http.Route.answer, answer_of_definition h, Http.answerValidate,
      hcheck]
    rfl
  · intro other e hother he
    obtain rfl : d = other := Except.ok.inj (h.symm.trans hother)
    rw [hcheck] at he
    cases he

theorem checksAlike_of_check_error (h : t.definition = .ok d) (hcheck : d.check = .error e) :
    t.ChecksAlike := by
  have hposted : t.posted .validate = (Http.Response.ofBody 422 (.document
      (.object [("valid", .bool false), ("error", .string e.message)]))).withHeader
        "access-control-allow-origin" "*" := by
    rw [t.posted_eq .validate rfl, Http.Route.answer, answer_of_definition h, Http.answerValidate,
      hcheck]
  have hfails : t.checked ≠ .ok () := by
    rw [checked_of_definition h, hcheck]
    exact nofun
  refine ⟨iff_of_false ?_ hfails, iff_of_false ?_ hfails, ?_⟩
  · rw [validateRun_of_definition h, CommandLine.validateOutcome, hcheck]
    exact Nat.one_ne_zero
  · rw [hposted]
    show 422 ≠ 200
    decide
  · intro other e' hother he
    obtain rfl : d = other := Except.ok.inj (h.symm.trans hother)
    obtain rfl : e = e' := Except.error.inj (hcheck.symm.trans he)
    rw [hposted]
    exact ⟨rfl, rfl⟩

theorem checksAlike_of_error (h : t.definition = .error e) : t.ChecksAlike := by
  obtain ⟨-, hchecked, -, -, hrun, -, hposted⟩ := fails_of_error h
  have hfails : t.checked ≠ .ok () := by
    rw [hchecked]
    exact nofun
  refine ⟨iff_of_false ?_ hfails, iff_of_false hposted hfails, ?_⟩
  · rw [hrun]
    exact Nat.one_ne_zero
  · intro d _ hd
    rw [h] at hd
    cases hd

theorem compilesAlike (t : Delivery) : t.CompilesAlike := by
  cases hdefinition : t.definition with
  | error e => exact compilesAlike_of_error hdefinition
  | ok d =>
      cases hbuild : d.build with
      | error e => exact compilesAlike_of_build_error hdefinition hbuild
      | ok query => exact compilesAlike_of_build hdefinition hbuild

theorem checksAlike (t : Delivery) : t.ChecksAlike := by
  cases hdefinition : t.definition with
  | error e => exact checksAlike_of_error hdefinition
  | ok d =>
      cases hcheck : d.check with
      | error e => exact checksAlike_of_check_error hdefinition hcheck
      | ok _ => exact checksAlike_of_check hdefinition hcheck

/-- Nothing is built that has not passed the check. -/
theorem checked_of_built {query : Query} (h : t.built = .ok query) : t.checked = .ok () := by
  obtain ⟨d, hdefinition, hbuild⟩ := bind_eq_ok_iff.mp h
  obtain ⟨_, hcheck, -⟩ := bind_eq_ok_iff.mp hbuild
  rw [checked_of_definition hdefinition]
  exact hcheck

/-- All ways to a query succeed for the same texts and carry the same query, and those that check a
definition accept the same texts, none of which is refused for its form by the ways to a query. A
run of the command line that fails exits with code 1 and leaves its first stream empty, whatever
files and whatever service there are. -/
theorem surfaces_agree (t : Delivery) :
    t.CompilesAlike ∧ t.ChecksAlike ∧
      (t.checked ≠ .ok () →
        (∀ query, t.built ≠ .ok query) ∧ (∀ query, t.compiled ≠ .ok (.ok query)) ∧
          (∀ pretty, (t.compileRun pretty).code ≠ 0) ∧ (t.posted .compile).status ≠ 200) ∧
      (∀ pretty, (t.compileRun pretty).FailsQuietly) ∧ t.validateRun.FailsQuietly ∧
      ∀ files words service command, CommandLine.Command.ofWords words = .ok command →
        (CommandLine.run files words service).FailsQuietly := by
  have hcompiles : t.CompilesAlike := t.compilesAlike
  have hchecks : t.ChecksAlike := t.checksAlike
  have hquiet : ∀ files words service command, CommandLine.Command.ofWords words = .ok command →
      (CommandLine.run files words service).FailsQuietly := by
    intro files words service command hwords
    rw [CommandLine.run_of_ofWords hwords]
    exact command.failsQuietly_run files service
  refine ⟨hcompiles, hchecks, fun hrefused => ?_,
    fun pretty => hquiet _ _ _ _ (CommandLine.ofWords_compile t.path_plain pretty),
    hquiet _ _ _ _ (CommandLine.ofWords_validate t.path_plain), hquiet⟩
  have hfails : ¬ ∃ query, t.built = .ok query := by
    rintro ⟨query, hbuilt⟩
    exact hrefused (checked_of_built hbuilt)
  exact ⟨fun query h => hfails ⟨query, h⟩,
    fun query h => hfails (hcompiles.compiled_iff.mp ⟨query, h⟩),
    fun pretty h => hfails ((hcompiles.run_iff pretty).mp h),
    fun h => hfails (hcompiles.posted_iff.mp h)⟩

/-- One expression over one condition. -/
def smallText : String :=
  "\x7b\"expressions\":\x7b\"E\":\x7b\"op\":\"use\",\"condition\":\"T\"\x7d\x7d," ++
    "\"conditions\":\x7b\"T\":\x7b\"prop\":\"at\",\"op\":\"equals\",\"value\":0\x7d\x7d\x7d"

example : ((ofText smallText (by decide)).compileRun true).stdout =
    "\x7b\n  \"at\": 0\n\x7d\n" := by
  decide +kernel

end Delivery

end FilterBook
