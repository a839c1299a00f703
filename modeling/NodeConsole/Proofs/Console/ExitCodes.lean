import NodeConsole.Proofs.CommandLine.Values
import NodeConsole.Proofs.Console.Resolution
import NodeConsole.Proofs.Console.Tables
import NodeConsole.Proofs.Logging.Quiet
import NodeConsole.Proofs.Settings.Requests
/-!
How settings commands end. A command goes through three stages: it needs a configuration, then a
document if it is to store one, and then a response. The first stage that fails decides how the command
ends; a response decides by its status and its body.
-/

namespace NodeConsole.Console

open NodeConsole.CommandLine (Action Answers Environment Invocation)

variable {σ : Type} [Http.Carrier σ]

/-! ## Stages -/

def IsSettings : Action → Prop
  | .get => True
  | .set _ => True
  | .proxy .. => False

/-- The first stage: there is a configuration. -/
def Configured (surroundings : Surroundings) (invocation : Invocation) (config : Settings.Config) :
    Prop :=
  resolveConfig surroundings.files (invocation.globals.value? .config)
    (invocation.globals.value? .baseUrl) (invocation.globals.value? .timeout) = .ok config

/-- The second stage: there is the document that is to be stored, if one is. -/
inductive Ordered (files : Files) : Action → Settings.Order → Prop where
  | fetch : Ordered files .get .fetch
  | file {path text : String} {assignments : List Settings.Assignment} {document : Json}
      (read : files.readText path = .ok text) (decoded : Json.ofText text = .ok document) :
      Ordered files (.set ⟨some path, assignments⟩) (.update document)
  | assigned {assignments : List Settings.Assignment} (some : assignments ≠ []) :
      Ordered files (.set ⟨none, assignments⟩) (.update (Settings.documentOf assignments))

def endpointOf (surroundings : Surroundings) (config : Settings.Config) : Settings.Endpoint :=
  ⟨config.baseUrl, some surroundings.runId⟩

/-- What is known when there is something to ask a server: a configuration, an order and a URL. -/
structure Prepared (surroundings : Surroundings) (invocation : Invocation)
    (config : Settings.Config) (order : Settings.Order) (url : Url) : Prop where
  configured : Configured surroundings invocation config
  ordered : Ordered surroundings.files invocation.action order
  found : (endpointOf surroundings config).urlFor Settings.settingsPath = .ok url

/-- The last stage: there is a response, the last one where the order was sent on. -/
def Answered (surroundings : Surroundings) (invocation : Invocation) (network : σ)
    (order : Settings.Order) (response : Http.Response) : Prop :=
  ∃ config url, Prepared surroundings invocation config order url ∧
    ((endpointOf surroundings config).attempt url order.document? network).1 = .ok response

/-! ## Ends -/

def layoutOf (invocation : Invocation) : Layout :=
  (invocation.globals.value? .output).getD .table

def rejections : List Nat :=
  [400, 409, 422]

/-- The input of a command is rejected. -/
inductive RejectedInput (surroundings : Surroundings) (invocation : Invocation) (network : σ) :
    Prop where
  | config (none : ∀ config, ¬Configured surroundings invocation config)
  | file {config : Settings.Config} {path text : String}
      {assignments : List Settings.Assignment} {reason : Json.Error}
      (configured : Configured surroundings invocation config)
      (stores : invocation.action = .set ⟨some path, assignments⟩)
      (read : surroundings.files.readText path = .ok text)
      (malformed : Json.ofText text = .error reason)
  | status {order : Settings.Order} {response : Http.Response} {body : ByteArray}
      (answered : Answered surroundings invocation network order response)
      (whole : response.body = .ok body) (rejected : response.status ∈ rejections)

/-- A command cannot be carried out. -/
inductive FailedOperation (surroundings : Surroundings) (invocation : Invocation) (network : σ) :
    Prop where
  | file {config : Settings.Config} {path : String} {assignments : List Settings.Assignment}
      {reason : Files.Error} (configured : Configured surroundings invocation config)
      (stores : invocation.action = .set ⟨some path, assignments⟩)
      (unreadable : surroundings.files.readText path = .error reason)
  | url {config : Settings.Config} {order : Settings.Order} {reason : Settings.CallError}
      (configured : Configured surroundings invocation config)
      (ordered : Ordered surroundings.files invocation.action order)
      (invalid : (endpointOf surroundings config).urlFor Settings.settingsPath = .error reason)
  | exchange {config : Settings.Config} {order : Settings.Order} {url : Url} {fault : Http.Fault}
      (prepared : Prepared surroundings invocation config order url)
      (failed : ((endpointOf surroundings config).attempt url order.document? network).1 =
        .error fault)
  | reading {order : Settings.Order} {response : Http.Response} {fault : Http.BodyFault}
      (answered : Answered surroundings invocation network order response)
      (cut : response.body = .error fault)
  | status {order : Settings.Order} {response : Http.Response} {body : ByteArray}
      (answered : Answered surroundings invocation network order response)
      (whole : response.body = .ok body)
      (refused : ¬(200 ≤ response.status ∧ response.status < 300))
      (other : response.status ∉ rejections)
  | body {order : Settings.Order} {response : Http.Response} {body : ByteArray}
      {reason : Json.Error} (answered : Answered surroundings invocation network order response)
      (whole : response.body = .ok body)
      (accepted : 200 ≤ response.status ∧ response.status < 300)
      (content : (Http.bodyBytes body).all Text.isBlankByte = false)
      (malformed : Json.ofBytes (Http.bodyBytes body) = .error reason)

/-- The document that a body stands for: null where it consists of blanks. -/
inductive Decodes (body : ByteArray) : Json → Prop where
  | blank (nothing : (Http.bodyBytes body).all Text.isBlankByte = true) : Decodes body .null
  | document {document : Json} (content : (Http.bodyBytes body).all Text.isBlankByte = false)
      (decoded : Json.ofBytes (Http.bodyBytes body) = .ok document) : Decodes body document

/-- A command succeeds with the document of its response. -/
def Succeeded (surroundings : Surroundings) (invocation : Invocation) (network : σ)
    (order : Settings.Order) (document : Json) : Prop :=
  ∃ response body, Answered surroundings invocation network order response ∧
    response.body = .ok body ∧ (200 ≤ response.status ∧ response.status < 300) ∧
    Decodes body document

/-! ## Results of stages -/

def orderOf (files : Files) : Action → Except Failure Settings.Order
  | .set source => (source.document files).map .update
  | _ => .ok .fetch

theorem perform_eq_runSettings {action : Action} (settings : IsSettings action)
    (surroundings : Surroundings) (build : String) (globals : Answers) (network : σ) :
    perform surroundings build globals network action =
      runSettings surroundings globals (orderOf surroundings.files action) network := by
  cases action with
  | get => rw [perform, orderOf]; simp
  | set source => rw [perform, orderOf]
  | proxy listen target area => cases settings

theorem orderOf_of_ordered {files : Files} {action : Action} {order : Settings.Order}
    (ordered : Ordered files action order) : orderOf files action = .ok order := by
  cases ordered with
  | fetch => rfl
  | file read decoded =>
      simp [orderOf, Source.document, documentOfFile, read, decoded, Except.map]
  | assigned some => simp [orderOf, Source.document, some, Except.map]

/-- Where a document comes from is settled by the command line; that it is there is not. -/
theorem ordered_cases {surroundings : Surroundings} {words : List String} {invocation : Invocation}
    (parsed : CommandLine.parse surroundings.environment words = .ok invocation)
    (settings : IsSettings invocation.action) :
    (∃ order, Ordered surroundings.files invocation.action order) ∨
      ∃ path assignments, invocation.action = .set ⟨some path, assignments⟩ ∧
        ((∃ reason, surroundings.files.readText path = .error reason) ∨
          ∃ text reason, surroundings.files.readText path = .ok text ∧
            Json.ofText text = .error reason) := by
  cases action : invocation.action with
  | get => exact .inl ⟨.fetch, .fetch⟩
  | set source =>
      rcases CommandLine.source_of_parse parsed action with ⟨path, rfl⟩ | ⟨assignments, rfl, some⟩
      · cases read : surroundings.files.readText path with
        | error reason => exact .inr ⟨path, [], rfl, .inl ⟨reason, read⟩⟩
        | ok text =>
            cases decoded : Json.ofText text with
            | error reason => exact .inr ⟨path, [], rfl, .inr ⟨text, reason, read, decoded⟩⟩
            | ok document => exact .inl ⟨.update document, .file read decoded⟩
      · exact .inl ⟨.update (Settings.documentOf assignments), .assigned some⟩
  | proxy listen target area =>
      rw [action] at settings
      cases settings

theorem orderOf_of_unreadable {files : Files} {action : Action} {path : String}
    {assignments : List Settings.Assignment} {reason : Files.Error}
    (stores : action = .set ⟨some path, assignments⟩)
    (unreadable : files.readText path = .error reason) :
    orderOf files action = .error (.failed [s!"failed to read {path}", reason.message]) := by
  simp [orderOf, stores, Source.document, documentOfFile, unreadable, Except.map]

theorem orderOf_of_malformed {files : Files} {action : Action} {path text : String}
    {assignments : List Settings.Assignment} {reason : Json.Error}
    (stores : action = .set ⟨some path, assignments⟩) (read : files.readText path = .ok text)
    (malformed : Json.ofText text = .error reason) :
    orderOf files action =
      .error (.rejected s!"settings file is not valid JSON: {reason.message}") := by
  simp [orderOf, stores, Source.document, documentOfFile, read, malformed, Except.map]

section

variable {surroundings : Surroundings} {invocation : Invocation} {network : σ} {build : String}

theorem result_of_not_configured (settings : IsSettings invocation.action)
    (none : ∀ config, ¬Configured surroundings invocation config) :
    ∃ message, (perform surroundings build invocation.globals network invocation.action).result =
      .error (.rejected message) := by
  rw [perform_eq_runSettings settings, runSettings]
  cases resolved : resolveConfig surroundings.files (invocation.globals.value? .config)
      (invocation.globals.value? .baseUrl) (invocation.globals.value? .timeout) with
  | error failure =>
      rcases of_resolveConfig_error resolved with ⟨error, _, rfl⟩
      exact ⟨_, rfl⟩
  | ok config => exact absurd resolved (none config)

theorem result_of_order_error (settings : IsSettings invocation.action)
    {config : Settings.Config} (configured : Configured surroundings invocation config)
    {failure : Failure} (failed : orderOf surroundings.files invocation.action = .error failure) :
    (perform surroundings build invocation.globals network invocation.action).result =
      .error failure := by
  rw [Configured] at configured
  rw [perform_eq_runSettings settings, runSettings, configured, failed]

theorem result_of_ordered (settings : IsSettings invocation.action)
    {config : Settings.Config} {order : Settings.Order}
    (configured : Configured surroundings invocation config)
    (ordered : Ordered surroundings.files invocation.action order) :
    (perform surroundings build invocation.globals network invocation.action).result =
      match ((endpointOf surroundings config).perform Settings.settingsPath order.document?
        network).1 with
      | .error error => .error (.ofCallError (actionName order) error)
      | .ok document =>
        .ok (printed order (layoutOf invocation) document) := by
  rw [Configured] at configured
  rw [perform_eq_runSettings settings, runSettings, configured, orderOf_of_ordered ordered,
    ← Settings.Endpoint.transport_perform]
  rfl

/-- Once there is a response, a command has the result of reading that. -/
theorem result_of_answered (settings : IsSettings invocation.action) {order : Settings.Order}
    {response : Http.Response} (answered : Answered surroundings invocation network order response) :
    (perform surroundings build invocation.globals network invocation.action).result =
      match Settings.Endpoint.resultOf response with
      | .error error => .error (.ofCallError (actionName order) error)
      | .ok document =>
        .ok (printed order (layoutOf invocation) document) := by
  rcases answered with ⟨config, url, prepared, attempted⟩
  rw [result_of_ordered settings prepared.configured prepared.ordered,
    Settings.Endpoint.perform_eq, prepared.found]
  dsimp only
  rw [Prod.map_fst, attempted]
  rfl

end

/-! ## Reading a response -/

theorem rejectsDocument_iff {status : Nat} :
    rejectsDocument status = true ↔ status ∈ rejections := by
  simp [rejectsDocument, rejections, or_assoc]

theorem resultOf_of_decodes {response : Http.Response} {body : ByteArray} {document : Json}
    (whole : response.body = .ok body) (accepted : 200 ≤ response.status ∧ response.status < 300)
    (decodes : Decodes body document) :
    Settings.Endpoint.resultOf response = .ok document := by
  rw [Settings.Endpoint.resultOf_of_ok whole, if_pos accepted]
  cases decodes with
  | blank nothing => rw [if_pos nothing]
  | document content decoded =>
      rw [content, if_neg Bool.false_ne_true, decoded]
      rfl

theorem ofCallError_refused (action : String) (status : Nat) (body : String) :
    (status ∈ rejections ∧
        ∃ message, Failure.ofCallError action (.refused status body) = .rejected message) ∨
      (status ∉ rejections ∧
        ∃ chain, Failure.ofCallError action (.refused status body) = .failed chain) := by
  rw [Failure.ofCallError]
  by_cases rejected : status ∈ rejections
  · rw [if_pos (rejectsDocument_iff.mpr rejected)]
    refine .inl ⟨rejected, ?_⟩
    dsimp only
    split <;> exact ⟨_, rfl⟩
  · rw [if_neg (fun same => rejected (rejectsDocument_iff.mp same))]
    exact .inr ⟨rejected, _, rfl⟩

/-! ## Ends and results -/

section

variable {surroundings : Surroundings} {invocation : Invocation} {network : σ}

theorem RejectedInput.result (rejected : RejectedInput surroundings invocation network)
    (settings : IsSettings invocation.action) (build : String) :
    ∃ message, (perform surroundings build invocation.globals network invocation.action).result =
      .error (.rejected message) := by
  cases rejected with
  | config none => exact result_of_not_configured settings none
  | @file config path text assignments reason configured stores read malformed =>
      have failed := orderOf_of_malformed stores read malformed
      exact ⟨_, result_of_order_error settings configured failed⟩
  | @status order response body answered whole rejected =>
      have refused : ¬(200 ≤ response.status ∧ response.status < 300) := by
        simp only [rejections, List.mem_cons, List.not_mem_nil, or_false] at rejected
        omega
      rcases ofCallError_refused (actionName order) response.status
          (String.ofList (Utf8.decodeLossy (Http.bodyBytes body))) with
        ⟨_, message, same⟩ | ⟨other, _⟩
      · refine ⟨message, ?_⟩
        rw [result_of_answered settings answered, Settings.Endpoint.resultOf_of_ok whole, if_neg refused]
        exact congrArg Except.error same
      · exact absurd rejected other

theorem FailedOperation.result (failed : FailedOperation surroundings invocation network)
    (settings : IsSettings invocation.action) (build : String) :
    ∃ chain, (perform surroundings build invocation.globals network invocation.action).result =
      .error (.failed chain) := by
  cases failed with
  | @file config path assignments reason configured stores unreadable =>
      have failed := orderOf_of_unreadable stores unreadable
      exact ⟨_, result_of_order_error settings configured failed⟩
  | @url config order reason configured ordered invalid =>
      rcases Settings.Endpoint.badUrl_of_urlFor invalid with ⟨text, error, rfl⟩
      rw [result_of_ordered settings configured ordered, Settings.Endpoint.perform_eq, invalid]
      exact ⟨_, rfl⟩
  | @exchange config order url fault prepared failed =>
      rw [result_of_ordered settings prepared.configured prepared.ordered,
        Settings.Endpoint.perform_eq, prepared.found]
      dsimp only
      rw [Prod.map_fst, failed]
      exact ⟨_, rfl⟩
  | @reading order response fault answered cut =>
      rw [result_of_answered settings answered, Settings.Endpoint.resultOf_of_error cut]
      exact ⟨_, rfl⟩
  | @status order response body answered whole refused other =>
      rcases ofCallError_refused (actionName order) response.status
          (String.ofList (Utf8.decodeLossy (Http.bodyBytes body))) with
        ⟨rejected, _⟩ | ⟨_, chain, same⟩
      · exact absurd rejected other
      · refine ⟨chain, ?_⟩
        rw [result_of_answered settings answered, Settings.Endpoint.resultOf_of_ok whole, if_neg refused]
        exact congrArg Except.error same
  | @body order response body reason answered whole accepted content malformed =>
      rw [result_of_answered settings answered, Settings.Endpoint.resultOf_of_ok whole, if_pos accepted, content,
        if_neg Bool.false_ne_true, malformed]
      exact ⟨_, rfl⟩

theorem Succeeded.result {order : Settings.Order} {document : Json}
    (succeeded : Succeeded surroundings invocation network order document)
    (settings : IsSettings invocation.action) (build : String) :
    (perform surroundings build invocation.globals network invocation.action).result =
      .ok (printed order (layoutOf invocation) document) := by
  rcases succeeded with ⟨response, body, answered, whole, accepted, decodes⟩
  rw [result_of_answered settings answered, resultOf_of_decodes whole accepted decodes]

/-- A response decides how a command ends. -/
theorem ends_of_answered {order : Settings.Order} {response : Http.Response}
    (answered : Answered surroundings invocation network order response) :
    RejectedInput surroundings invocation network ∨
      FailedOperation surroundings invocation network ∨
        ∃ order document, Succeeded surroundings invocation network order document := by
  cases whole : response.body with
  | error fault => exact .inr (.inl (.reading answered whole))
  | ok body =>
      by_cases rejected : response.status ∈ rejections
      · exact .inl (.status answered whole rejected)
      · by_cases accepted : 200 ≤ response.status ∧ response.status < 300
        · have succeeds {document : Json} (decodes : Decodes body document) :
              Succeeded surroundings invocation network order document :=
            ⟨response, body, answered, whole, accepted, decodes⟩
          cases content : (Http.bodyBytes body).all Text.isBlankByte with
          | true => exact .inr (.inr ⟨order, _, succeeds (.blank content)⟩)
          | false =>
              cases decoded : Json.ofBytes (Http.bodyBytes body) with
              | error reason => exact .inr (.inl (.body answered whole accepted content decoded))
              | ok document => exact .inr (.inr ⟨order, _, succeeds (.document content decoded)⟩)
        · exact .inr (.inl (.status answered whole accepted rejected))

/-- A settings command ends in one of the three ways. -/
theorem ends {words : List String}
    (parsed : CommandLine.parse surroundings.environment words = .ok invocation)
    (settings : IsSettings invocation.action) :
    RejectedInput surroundings invocation network ∨
      FailedOperation surroundings invocation network ∨
        ∃ order document, Succeeded surroundings invocation network order document := by
  by_cases resolved : ∃ config, Configured surroundings invocation config
  case neg => exact .inl (.config fun config configured => resolved ⟨config, configured⟩)
  rcases resolved with ⟨config, configured⟩
  rcases ordered_cases parsed settings with
    ⟨order, ordered⟩ | ⟨path, assignments, stores, ⟨reason, unreadable⟩ | ⟨text, reason, read, malformed⟩⟩
  case inr.inl => exact .inr (.inl (.file configured stores unreadable))
  case inr.inr => exact .inl (.file configured stores read malformed)
  cases found : (endpointOf surroundings config).urlFor Settings.settingsPath with
  | error reason => exact .inr (.inl (.url configured ordered found))
  | ok url =>
      have prepared : Prepared surroundings invocation config order url := ⟨configured, ordered, found⟩
      cases attempted : ((endpointOf surroundings config).attempt url order.document? network).1 with
      | error fault => exact .inr (.inl (.exchange prepared attempted))
      | ok response =>
          exact ends_of_answered ⟨config, url, prepared, attempted⟩

theorem execute_of_ok {shown : Printed}
    (succeeds : ∀ build, (perform surroundings build invocation.globals network
      invocation.action).result = .ok shown) (journal : Logging.Journal) :
    (execute surroundings journal network invocation).exitCode =
        (if shown.breaksOff then breakdownCode else 0) ∧
      (execute surroundings journal network invocation).output = shown.text := by
  rw [execute]
  dsimp only
  rw [succeeds]
  exact ⟨rfl, rfl⟩

theorem execute_of_error {exitCode : Nat}
    (fails : ∀ build, ∃ failure, (perform surroundings build invocation.globals network
      invocation.action).result = .error failure ∧ failure.exitCode = exitCode)
    (journal : Logging.Journal) :
    (execute surroundings journal network invocation).exitCode = exitCode ∧
      (execute surroundings journal network invocation).output = "" := by
  rw [execute]
  dsimp only
  rcases fails (journal.install (surroundings.environment.get? Logging.filterVariable)
    (setupOf invocation)).2.build with ⟨failure, failed, code⟩
  rw [failed]
  exact ⟨code, rfl⟩

theorem RejectedInput.execute (rejected : RejectedInput surroundings invocation network)
    (settings : IsSettings invocation.action) (journal : Logging.Journal) :
    (execute surroundings journal network invocation).exitCode = 2 ∧
      (execute surroundings journal network invocation).output = "" := by
  refine execute_of_error (fun build => ?_) journal
  rcases rejected.result settings build with ⟨message, result⟩
  exact ⟨_, result, rfl⟩

theorem FailedOperation.execute (failed : FailedOperation surroundings invocation network)
    (settings : IsSettings invocation.action) (journal : Logging.Journal) :
    (execute surroundings journal network invocation).exitCode = 3 ∧
      (execute surroundings journal network invocation).output = "" := by
  refine execute_of_error (fun build => ?_) journal
  rcases failed.result settings build with ⟨chain, result⟩
  exact ⟨_, result, rfl⟩

theorem Succeeded.execute {order : Settings.Order} {document : Json}
    (succeeded : Succeeded surroundings invocation network order document)
    (settings : IsSettings invocation.action) (journal : Logging.Journal) :
    (execute surroundings journal network invocation).exitCode =
        (if (printed order (layoutOf invocation) document).breaksOff then breakdownCode else 0) ∧
      (execute surroundings journal network invocation).output =
        (printed order (layoutOf invocation) document).text :=
  execute_of_ok (fun build => succeeded.result settings build) journal

end

end NodeConsole.Console
