import HermesCluster.Lib.Run
import HermesCluster.Task.TaskManager

/-!
# The setup wizard

`WizardState` of `setup_wizard.py`, with the parsers of its answers and the two builders of a
config.  The tokens a call draws come with the answer, the token in the prompt of the worker's
node id and `str.lower` are parameters, and `saved` lists the configs `save_config` was called
with.  Writing the file succeeds.

`wizard_finishes_usable`: whatever is answered, the wizard saves one config, when it completes,
and one that can be used.
-/

namespace HermesCluster

open Run

/-- `str.strip` -/
def strip (text : String) : String :=
  String.ofList ((text.toList.dropWhile isSpace).reverse.dropWhile isSpace).reverse

/-! ### `int` -/

/-- The zeros of the decimal digits of Unicode 15. -/
def decimalZeros : List Nat :=
  [0x30, 0x660, 0x6f0, 0x7c0, 0x966, 0x9e6, 0xa66, 0xae6, 0xb66, 0xbe6, 0xc66, 0xce6, 0xd66,
    0xde6, 0xe50, 0xed0, 0xf20, 0x1040, 0x1090, 0x17e0, 0x1810, 0x1946, 0x19d0, 0x1a80, 0x1a90,
    0x1b50, 0x1bb0, 0x1c40, 0x1c50, 0xa620, 0xa8d0, 0xa900, 0xa9d0, 0xa9f0, 0xaa50, 0xabf0,
    0xff10, 0x104a0, 0x10d30, 0x11066, 0x110f0, 0x11136, 0x111d0, 0x112f0, 0x11450, 0x114d0,
    0x11650, 0x116c0, 0x11730, 0x118e0, 0x11950, 0x11c50, 0x11d50, 0x11da0, 0x11f50, 0x16a60,
    0x16ac0, 0x16b50, 0x1d7ce, 0x1d7d8, 0x1d7e2, 0x1d7ec, 0x1d7f6, 0x1e140, 0x1e2f0, 0x1e4f0,
    0x1e950, 0x1fbf0]

/-- `unicodedata.decimal(c)` -/
def decimal (c : Char) : Option Nat :=
  (decimalZeros.find? fun z => z ≤ c.toNat ∧ c.toNat < z + 10).map (c.toNat - ·)

/-- Digits, with single underscores between them. -/
def digits : List Char → Option (List Nat)
  | [] => none
  | [c] => (decimal c).map fun d => [d]
  | c :: '_' :: rest => do
    let d ← decimal c
    let ds ← digits rest
    return d :: ds
  | c :: rest => do
    let d ← decimal c
    let ds ← digits rest
    return d :: ds

/-- More digits than this `int` refuses. -/
def maxStrDigits : Nat := 4300

def natOfDigits (text : List Char) : Option Nat := do
  let ds ← digits text
  if ds.length ≤ maxStrDigits then some (ds.foldl (fun n d => 10 * n + d) 0) else none

/-- `int(text)`, `none` for the `ValueError`. -/
def pyInt (text : String) : Option Int :=
  match (strip text).toList with
  | '-' :: rest => (natOfDigits rest).map fun n => -(n : Int)
  | '+' :: rest => (natOfDigits rest).map Int.ofNat
  | rest => (natOfDigits rest).map Int.ofNat

example : pyInt " 8_787 " = some 8787 := by decide +kernel

namespace Wizard

/-! ### Parsers -/

inductive Role | main | worker
deriving DecidableEq, Repr

def Role.value : Role → String
  | main => "main"
  | worker => "worker"

def defaultPort : Int := 8787

def defaultClusterId : String := "hermes-cluster"

def defaultCapabilities : List Capability := ["planning", "reviewing", "scheduling"]

def allCapabilities : List Capability :=
  ["planning", "reviewing", "scheduling", "coding", "testing", "debugging", "documentation",
    "deployment"]

def parseRole (answer : String) : Option Role :=
  let stripped := strip answer
  if stripped = "1" ∨ stripped = "main" then some .main
  else if stripped = "2" ∨ stripped = "worker" then some .worker
  else none

/-- `[c.strip().lower() for c in stripped.split(",") if c.strip()]` -/
def splitCapabilities (lower : String → String) (stripped : String) : List Capability :=
  (((stripped.toList.splitOn ',').map fun c => strip (String.ofList c)).filter (· ≠ "")).map lower

def parseCapabilities (lower : String → String) (answer : String) (default : List Capability) :
    List Capability :=
  let stripped := strip answer
  if stripped = "" then default
  else
    let caps := splitCapabilities lower stripped
    if caps ≠ [] then caps else default

def parsePort (answer : String) (default : Int) : Int :=
  let stripped := strip answer
  if stripped = "" then default
  else
    match pyInt stripped with
    | some port => if 1 ≤ port ∧ port ≤ 65535 then port else default
    | none => default

/-! ### Steps -/

inductive AnswerKey | clusterId | nodeId | nodeName | capabilities | port | endpoint | token
deriving DecidableEq, Repr

inductive StepDefault
  | text (text : String)
  | capabilities (capabilities : List Capability)
  | port (port : Int)
deriving DecidableEq, Repr

/-- `str(default)`; a list is shown as Python shows it. -/
def StepDefault.str : StepDefault → String
  | .text value => value
  | .capabilities caps => "[" ++ ", ".intercalate (caps.map fun c => "'" ++ c ++ "'") ++ "]"
  | .port value => toString value

structure Step where
  key : AnswerKey
  prompt : String
  default : Option StepDefault := none
  required : Bool := false
deriving DecidableEq, Repr

def setupPrompt : String :=
  "🔧 **Hermes Cluster — Setup Required**\n\n" ++
  "No cluster configuration was detected for the `hermes-agent-cluster` plugin.\n" ++
  "Let's set one up! Please answer the following questions (you can reply with\n" ++
  "just the answers, e.g. \"1\" for the first option):\n\n" ++
  "**Step 1 — Role**\n" ++
  "What role should this node play?\n" ++
  "  `1` — **Main node** (create a new cluster — other nodes will join yours)\n" ++
  "  `2` — **Worker node** (join an existing cluster)\n\n" ++
  "Just reply with `1` or `2` and I'll walk you through the rest.\n" ++
  "You can also run `/cluster-setup` at any time to re-run this wizard.\n"

def mainSteps : List Step :=
  [{ key := .clusterId, default := some (.text defaultClusterId)
     prompt := "**Step 2 — Cluster Name**\n" ++
      "What name would you like for your cluster?\n" ++
      "(default: `" ++ defaultClusterId ++ "` — press Enter to accept)\n" },
   { key := .nodeId, default := some (.text "main-node")
     prompt := "**Step 3 — Node ID**\n" ++
      "Choose a unique identifier for this main node.\n" ++
      "(default: `main-node` — press Enter to accept)\n" },
   { key := .nodeName, default := some (.text "Main Node")
     prompt := "**Step 4 — Node Display Name**\n" ++
      "A friendly display name for this node.\n" ++
      "(default: `Main Node` — press Enter to accept)\n" },
   { key := .capabilities, default := some (.capabilities defaultCapabilities)
     prompt := "**Step 5 — Capabilities**\n" ++
      "Available capabilities: " ++ ", ".intercalate allCapabilities ++ "\n" ++
      "Enter comma-separated capabilities, or press Enter for the defaults.\n" ++
      "(default: `" ++ ", ".intercalate defaultCapabilities ++ "`)\n" },
   { key := .port, default := some (.port defaultPort)
     prompt := "**Step 6 — Port**\n" ++
      "Which port should the cluster server listen on?\n" ++
      "(default: `" ++ toString defaultPort ++ "` — press Enter to accept)\n" }]

/-- `importToken` was drawn when the module was imported, and only shows in the prompt. -/
def workerSteps (importToken : String) : List Step :=
  [{ key := .endpoint, required := true
     prompt := "**Step 2 — Cluster Endpoint**\n" ++
      "Enter the main node's URL (e.g. `http://192.168.1.10:8787`).\n" },
   { key := .token, required := true
     prompt := "**Step 3 — Authentication Token**\n" ++
      "Enter the cluster token provided by the main node admin.\n" },
   { key := .nodeId
     prompt := "**Step 4 — Node ID**\n" ++
      "Choose a unique identifier for this worker node.\n" ++
      "(default: `worker-" ++ importToken ++ "` — press Enter to accept)\n" },
   { key := .nodeName
     prompt := "**Step 5 — Node Display Name**\n" ++
      "A friendly display name for this node.\n" ++
      "(default: same as Node ID — press Enter to accept)\n" },
   { key := .capabilities, default := some (.capabilities ["coding", "testing"])
     prompt := "**Step 6 — Capabilities**\n" ++
      "Available capabilities: " ++ ", ".intercalate allCapabilities ++ "\n" ++
      "Enter comma-separated capabilities, or press Enter for the defaults.\n" ++
      "(default: `coding, testing`)\n" }]

/-! ### Configs -/

structure SetupConfig where
  clusterId : String
  role : Role
  nodeId : String
  nodeName : String
  capabilities : List Capability
  port : Int
  token : String
  endpoint : String
  autoStart : Bool
  setupComplete : Bool
deriving DecidableEq, Repr

def buildMainConfig (clusterId nodeId nodeName : String) (capabilities : List Capability)
    (port : Int) (token : String) : SetupConfig :=
  { clusterId := clusterId, role := .main, nodeId := nodeId, nodeName := nodeName
    capabilities := capabilities, port := port, token := token
    endpoint := "http://127.0.0.1:" ++ toString port, autoStart := true, setupComplete := true }

/-- `hex` is what `secrets.token_hex(4)` returns. -/
def buildWorkerConfig (hex endpoint token : String) (nodeId nodeName : Option String)
    (capabilities : List Capability) : SetupConfig :=
  let nodeId := nodeId.getD ("worker-" ++ hex)
  { clusterId := "", role := .worker, nodeId := nodeId, nodeName := nodeName.getD nodeId
    capabilities := capabilities, port := 0, token := token, endpoint := endpoint
    autoStart := true, setupComplete := true }

def summary (config : SetupConfig) : String :=
  "\n".intercalate (
    ["✅ **Cluster Configuration Complete!**\n",
      "  **Role:** " ++ config.role.value,
      "  **Cluster ID:** " ++ config.clusterId,
      "  **Node ID:** " ++ config.nodeId,
      "  **Node Name:** " ++ config.nodeName,
      "  **Capabilities:** " ++ ", ".intercalate config.capabilities] ++
    (if config.role = .main then
      ["  **Port:** " ++ toString config.port,
        "  **Token:** `" ++ config.token ++ "`",
        "",
        "📋 **Worker join command:**",
        "  Workers can join with: endpoint=`http://<your-ip>:" ++ toString config.port ++
          "`, token=`" ++ config.token ++ "`"]
    else
      ["  **Endpoint:** " ++ config.endpoint,
        "  **Token:** `" ++ config.token ++ "`"]) ++
    ["",
      "Configuration saved. The cluster service will auto-start on next session."])

end Wizard

/-! ### `WizardState` -/

/-- The dictionary `answers`, a key that is not there being `none`. -/
structure Answers where
  clusterId : Option String := none
  nodeId : Option String := none
  nodeName : Option String := none
  capabilities : Option (List Capability) := none
  port : Option Int := none
  endpoint : Option String := none
  token : Option String := none
deriving DecidableEq, Repr

open Wizard

structure WizardState where
  role : Option Role := none
  answers : Answers := {}
  /-- 0 is the selection of the role. -/
  stepIndex : Nat := 0
  complete : Bool := false
  error : Option String := none
  /-- What `save_config` was called with. -/
  saved : List SetupConfig := []
deriving DecidableEq, Repr

/-- An answer, with what `secrets.token_hex(4)` and `generate_token` return while it is
processed. -/
structure Reply where
  text : String
  hex : String
  token : String
deriving DecidableEq, Repr

namespace WizardState

variable (importToken : String) (lower : String → String)

def steps (w : WizardState) : List Step :=
  if w.role = some .main then mainSteps else workerSteps importToken

def currentStep (w : WizardState) : Option Step :=
  if w.stepIndex = 0 then none else (w.steps importToken)[w.stepIndex - 1]?

def currentPrompt (w : WizardState) : String :=
  if w.stepIndex = 0 then setupPrompt
  else
    match w.currentStep importToken with
    | none => ""
    | some step => step.prompt

def roleError : String := "Please reply with `1` (main) or `2` (worker)."

def requiredError : String := "This field is required. Please provide a value."

/-- The default of the step, with those filled in dynamically. -/
def stepDefault (w : WizardState) (hex : String) (step : Step) : Option StepDefault :=
  match step.key, step.default with
  | .nodeId, none => some (.text ("worker-" ++ hex))
  | .nodeName, none => some (.text (w.answers.nodeId.getD ("worker-" ++ hex)))
  | _, default => default

/-- The default of the capabilities, if it is a list. -/
def capabilitiesDefault : Option StepDefault → List Capability
  | some (.capabilities caps) => caps
  | _ => defaultCapabilities

/-- The default of the port, if it is a number. -/
def portDefault : Option StepDefault → Int
  | some (.port port) => port
  | _ => defaultPort

/-- `self.answers[key] = …` -/
def answered (answers : Answers) (key : AnswerKey) (default : Option StepDefault)
    (answer : String) : Answers :=
  -- `default or ""` of the endpoint and the token is this too
  let text := if answer ≠ "" then answer else (default.map StepDefault.str).getD ""
  match key with
  | .capabilities =>
    { answers with
      capabilities := some (parseCapabilities lower answer (capabilitiesDefault default)) }
  | .port => { answers with port := some (parsePort answer (portDefault default)) }
  | .endpoint => { answers with endpoint := some text }
  | .token => { answers with token := some text }
  | .clusterId => { answers with clusterId := some text }
  | .nodeId => { answers with nodeId := some text }
  | .nodeName => { answers with nodeName := some text }

/-- The config `_build_summary` saves. -/
def finalConfig (w : WizardState) (reply : Reply) : SetupConfig :=
  if w.role = some .main then
    buildMainConfig (w.answers.clusterId.getD defaultClusterId)
      (w.answers.nodeId.getD "main-node") (w.answers.nodeName.getD "Main Node")
      (w.answers.capabilities.getD defaultCapabilities) (w.answers.port.getD defaultPort)
      reply.token
  else
    buildWorkerConfig reply.hex (w.answers.endpoint.getD "") (w.answers.token.getD "")
      w.answers.nodeId w.answers.nodeName (w.answers.capabilities.getD ["coding", "testing"])

/-- `_build_summary` -/
def buildSummary (w : WizardState) (reply : Reply) : String × WizardState :=
  let config := w.finalConfig reply
  (summary config, { w with saved := w.saved ++ [config] })

/-- `process_answer` -/
def processAnswer (w : WizardState) (reply : Reply) : String × WizardState :=
  let answer := strip reply.text
  if w.stepIndex = 0 then
    match parseRole answer with
    | none => (roleError, { w with error := some roleError })
    | some role =>
      let w := { w with role := some role, stepIndex := 1 }
      (w.currentPrompt importToken, w)
  else
    match w.currentStep importToken with
    | none => ("", w)
    | some step =>
      if step.required ∧ answer = "" then
        (requiredError, { w with error := some requiredError })
      else
        let w := { w with
          answers := answered lower w.answers step.key (w.stepDefault reply.hex step) answer
          stepIndex := w.stepIndex + 1 }
        if w.stepIndex > (w.steps importToken).length then
          { w with complete := true }.buildSummary reply
        else (w.currentPrompt importToken, w)

/-- One answer. -/
def step (w : WizardState) (reply : Reply) : WizardState :=
  (w.processAnswer importToken lower reply).2

/-! ### What holds along every run -/

/-- A config the plugin can start from. -/
structure Usable (config : SetupConfig) : Prop where
  setupComplete : config.setupComplete = true
  capabilities : config.capabilities ≠ []
  port : config.role = .main → 1 ≤ config.port ∧ config.port ≤ 65535
  join : config.role = .worker → config.endpoint ≠ "" ∧ config.token ≠ ""

/-- What the wizard promises, state by state. -/
structure Finishes (w : WizardState) : Prop where
  inRange : w.stepIndex ≤ (w.steps importToken).length + 1
  complete : w.complete = true ↔ w.stepIndex = (w.steps importToken).length + 1
  savedOnce : w.saved.length = if w.complete then 1 else 0
  usable : ∀ config ∈ w.saved, Usable config

/-- A bad role, or nothing for a field that is required. -/
def Rejects (w : WizardState) (reply : Reply) : Prop :=
  (w.stepIndex = 0 ∧ parseRole (strip reply.text) = none) ∨
    ∃ s, w.currentStep importToken = some s ∧ s.required = true ∧ strip reply.text = ""

/-- What an answer leaves alone. -/
structure Respects (w : WizardState) (reply : Reply) : Prop where
  rejected : w.Rejects importToken reply → (w.step importToken lower reply).role = w.role ∧
    (w.step importToken lower reply).answers = w.answers ∧
    (w.step importToken lower reply).stepIndex = w.stepIndex
  saves : (w.step importToken lower reply).saved ≠ w.saved →
    w.complete = false ∧ (w.step importToken lower reply).complete = true
  finished : w.complete = true → w.step importToken lower reply = w

/-- The answers given so far can be used. -/
structure GoodAnswers (a : Answers) : Prop where
  capabilities : ∀ caps, a.capabilities = some caps → caps ≠ []
  port : ∀ port, a.port = some port → 1 ≤ port ∧ port ≤ 65535
  endpoint : ∀ endpoint, a.endpoint = some endpoint → endpoint ≠ ""
  token : ∀ token, a.token = some token → token ≠ ""

/-- The invariant. -/
structure Sound (w : WizardState) : Prop where
  finishes : w.Finishes importToken
  role : w.stepIndex ≠ 0 → w.role ≠ none
  answers : GoodAnswers w.answers
  /-- A worker has been asked for both. -/
  asked : w.role = some .worker → (2 ≤ w.stepIndex → w.answers.endpoint ≠ none) ∧
    (3 ≤ w.stepIndex → w.answers.token ≠ none)

variable {importToken lower} {w : WizardState} {reply : Reply}

variable (importToken) in
theorem length_steps (w : WizardState) : (w.steps importToken).length = 5 := by
  rw [steps]
  split
  · rfl
  · rfl

/-! ### Parsed answers -/

theorem parseCapabilities_ne_nil (answer : String) {default : List Capability}
    (h : default ≠ []) : parseCapabilities lower answer default ≠ [] := by
  rw [parseCapabilities]
  split
  · exact h
  · dsimp only
    split
    · assumption
    · exact h

theorem parsePort_range (answer : String) {default : Int} (h : 1 ≤ default ∧ default ≤ 65535) :
    1 ≤ parsePort answer default ∧ parsePort answer default ≤ 65535 := by
  rw [parsePort]
  split
  · exact h
  · cases pyInt (strip answer) with
    | none => exact h
    | some port =>
      dsimp only
      split
      · assumption
      · exact h

/-- The defaults of the steps are capabilities and ports that can be used, and the endpoint and
the token have to be given. -/
def GoodStep (s : Step) : Prop :=
  (∀ caps, s.default = some (.capabilities caps) → caps ≠ []) ∧
    (∀ port, s.default = some (.port port) → 1 ≤ port ∧ port ≤ 65535) ∧
    (s.key = .endpoint ∨ s.key = .token → s.required = true)

theorem goodStep {s : Step} (h : s ∈ w.steps importToken) : GoodStep s := by
  rw [steps] at h
  split at h
  · simp only [mainSteps, List.mem_cons, List.not_mem_nil, or_false] at h
    rcases h with rfl | rfl | rfl | rfl | rfl <;>
      simp [GoodStep, defaultCapabilities, defaultPort]
  · simp only [workerSteps, List.mem_cons, List.not_mem_nil, or_false] at h
    rcases h with rfl | rfl | rfl | rfl | rfl <;> simp [GoodStep]

theorem capabilitiesDefault_ne_nil {s : Step} (h : GoodStep s) (hex : String) :
    capabilitiesDefault (w.stepDefault hex s) ≠ [] := by
  obtain ⟨key, prompt, default, required⟩ := s
  have hcaps := h.1
  have hdefault : defaultCapabilities ≠ [] := by decide
  rcases default with _ | ⟨text⟩ | ⟨caps⟩ | ⟨port⟩
  · cases key <;> exact hdefault
  · cases key <;> exact hdefault
  · cases key <;> exact hcaps caps rfl
  · cases key <;> exact hdefault

theorem portDefault_range {s : Step} (h : GoodStep s) (hex : String) :
    1 ≤ portDefault (w.stepDefault hex s) ∧ portDefault (w.stepDefault hex s) ≤ 65535 := by
  obtain ⟨key, prompt, default, required⟩ := s
  have hport := h.2.1
  have hdefault : 1 ≤ defaultPort ∧ defaultPort ≤ 65535 := by decide
  rcases default with _ | ⟨text⟩ | ⟨caps⟩ | ⟨port⟩
  · cases key <;> exact hdefault
  · cases key <;> exact hdefault
  · cases key <;> exact hdefault
  · cases key <;> exact hport port rfl

theorem GoodAnswers.answered {a : Answers} (ha : GoodAnswers a) {s : Step} (hs : GoodStep s)
    (hex : String) {answer : String} (hreq : s.required = true → answer ≠ "") :
    GoodAnswers (answered lower a s.key (w.stepDefault hex s) answer) := by
  have hcaps := capabilitiesDefault_ne_nil (w := w) hs hex
  have hport := portDefault_range (w := w) hs hex
  have hgiven := hs.2.2
  unfold WizardState.answered
  cases hkey : s.key with
  | capabilities =>
    refine { ha with capabilities := fun caps hc => ?_ }
    obtain rfl := Option.some.inj hc
    exact parseCapabilities_ne_nil answer hcaps
  | port =>
    refine { ha with port := fun port hp => ?_ }
    obtain rfl := Option.some.inj hp
    exact parsePort_range answer hport
  | endpoint =>
    have hne : answer ≠ "" := hreq (hgiven (Or.inl hkey))
    refine { ha with endpoint := fun endpoint he => ?_ }
    rw [← Option.some.inj he, if_pos hne]
    exact hne
  | token =>
    have hne : answer ≠ "" := hreq (hgiven (Or.inr hkey))
    refine { ha with token := fun token ht => ?_ }
    rw [← Option.some.inj ht, if_pos hne]
    exact hne
  | clusterId => exact { ha with }
  | nodeId => exact { ha with }
  | nodeName => exact { ha with }

/-- What has been asked stays answered, and the endpoint and the token are asked for. -/
theorem answered_ne_none (lower : String → String) (a : Answers) (key : AnswerKey)
    (default : Option StepDefault) (answer : String) :
    (a.endpoint ≠ none ∨ key = .endpoint → (answered lower a key default answer).endpoint ≠ none) ∧
      (a.token ≠ none ∨ key = .token → (answered lower a key default answer).token ≠ none) := by
  unfold answered
  cases key <;> simp

/-! ### Steps -/

theorem currentStep_some {s : Step} (h : w.currentStep importToken = some s) :
    w.stepIndex ≠ 0 ∧ w.stepIndex ≤ 5 ∧ s ∈ w.steps importToken := by
  rw [currentStep] at h
  split at h
  · cases h
  · rename_i h0
    obtain ⟨hlt, -⟩ := List.getElem?_eq_some_iff.mp h
    rw [length_steps] at hlt
    exact ⟨h0, by omega, List.mem_of_getElem? h⟩

/-- The first two questions to a worker. -/
theorem key_of_worker {s : Step} (hw : w.role = some .worker)
    (h : w.currentStep importToken = some s) :
    (w.stepIndex = 1 → s.key = .endpoint) ∧ (w.stepIndex = 2 → s.key = .token) := by
  have hne : w.role ≠ some .main := by
    rw [hw]
    decide
  refine ⟨fun h1 => ?_, fun h2 => ?_⟩
  · rw [currentStep, h1, if_neg (by decide), steps, if_neg hne] at h
    cases h
    rfl
  · rw [currentStep, h2, if_neg (by decide), steps, if_neg hne] at h
    cases h
    rfl

/-- A role was named. -/
theorem step_role {role : Role} (h0 : w.stepIndex = 0)
    (h : parseRole (strip reply.text) = some role) :
    w.step importToken lower reply = { w with role := some role, stepIndex := 1 } := by
  rw [step, processAnswer]
  dsimp only
  rw [if_pos h0, h]

theorem step_rejected (h : w.Rejects importToken reply) :
    ∃ error, w.step importToken lower reply = { w with error := some error } := by
  rw [step, processAnswer]
  dsimp only
  rcases h with ⟨h0, h⟩ | ⟨s, hs, hreq, hempty⟩
  · rw [if_pos h0, h]
    exact ⟨roleError, rfl⟩
  · rw [if_neg (currentStep_some hs).1, hs]
    dsimp only
    rw [if_pos ⟨hreq, hempty⟩]
    exact ⟨requiredError, rfl⟩

theorem step_past (h0 : w.stepIndex ≠ 0) (h : w.currentStep importToken = none) :
    w.step importToken lower reply = w := by
  rw [step, processAnswer]
  dsimp only
  rw [if_neg h0, h]

/-- The state with the answer of the step, one further on. -/
def advanced (lower : String → String) (w : WizardState) (reply : Reply) (s : Step) :
    WizardState :=
  { w with
    answers := answered lower w.answers s.key (w.stepDefault reply.hex s) (strip reply.text)
    stepIndex := w.stepIndex + 1 }

variable (lower) in
theorem step_accepted {s : Step} (hs : w.currentStep importToken = some s)
    (h : ¬ (s.required = true ∧ strip reply.text = "")) :
    w.step importToken lower reply =
      if w.stepIndex + 1 > 5 then
        (({ advanced lower w reply s with complete := true } : WizardState).buildSummary reply).2
      else advanced lower w reply s := by
  have hlen := length_steps importToken (advanced lower w reply s)
  rw [step, processAnswer]
  dsimp only
  rw [if_neg (currentStep_some hs).1, hs]
  dsimp only
  rw [if_neg h]
  show (if w.stepIndex + 1 > ((advanced lower w reply s).steps importToken).length then _
    else _ : String × WizardState).2 = _
  rw [hlen]
  split
  · rfl
  · rfl

/-! ### The invariant -/

theorem finishes_of (h : w.stepIndex ≤ 6) (hcomplete : w.complete = true ↔ w.stepIndex = 6)
    (hsaved : w.saved.length = if w.complete then 1 else 0)
    (husable : ∀ config ∈ w.saved, Usable config) : w.Finishes importToken := by
  have hlen := length_steps importToken w
  exact ⟨by omega, by rw [hlen, hcomplete], hsaved, husable⟩

theorem Sound.complete_iff (h : w.Sound importToken) : w.complete = true ↔ w.stepIndex = 6 := by
  rw [h.finishes.complete, length_steps]

theorem Sound.saved_nil (h : w.Sound importToken) (hi : w.stepIndex ≠ 6) : w.saved = [] := by
  have hlen := h.finishes.savedOnce
  rw [if_neg fun hc => hi (h.complete_iff.mp hc)] at hlen
  exact List.length_eq_zero_iff.mp hlen

theorem Sound.withError (h : w.Sound importToken) (error : Option String) :
    ({ w with error := error } : WizardState).Sound importToken :=
  ⟨⟨h.finishes.inRange, h.finishes.complete, h.finishes.savedOnce, h.finishes.usable⟩, h.role,
    h.answers, h.asked⟩

theorem usable_finalConfig (ha : GoodAnswers w.answers) (hrole : w.role ≠ none)
    (hasked : w.role = some .worker → w.answers.endpoint ≠ none ∧ w.answers.token ≠ none) :
    Usable (w.finalConfig reply) := by
  rw [finalConfig]
  by_cases hmain : w.role = some .main
  · rw [if_pos hmain, buildMainConfig]
    refine ⟨rfl, ?_, fun _ => ?_, fun h => by cases h⟩
    · cases hc : w.answers.capabilities with
      | none => exact (by decide : defaultCapabilities ≠ [])
      | some caps => exact ha.capabilities caps hc
    · cases hp : w.answers.port with
      | none => exact (by decide : 1 ≤ defaultPort ∧ defaultPort ≤ 65535)
      | some port => exact ha.port port hp
  · have hworker : w.role = some .worker := by
      cases hr : w.role with
      | none => exact absurd hr hrole
      | some role =>
        cases role with
        | main => exact absurd hr hmain
        | worker => rfl
    obtain ⟨endpoint, he⟩ := Option.ne_none_iff_exists'.mp (hasked hworker).1
    obtain ⟨token, ht⟩ := Option.ne_none_iff_exists'.mp (hasked hworker).2
    rw [if_neg hmain, buildWorkerConfig, he, ht]
    refine ⟨rfl, ?_, (fun h => by cases h), fun _ => ⟨ha.endpoint _ he, ha.token _ ht⟩⟩
    cases hc : w.answers.capabilities with
    | none => exact (by decide : (["coding", "testing"] : List Capability) ≠ [])
    | some caps => exact ha.capabilities caps hc

variable (lower) in
/-- An accepted answer keeps the invariant as long as the wizard goes on, and gives what its
config needs. -/
theorem advanced_facts (h : w.Sound importToken) {s : Step}
    (hs : w.currentStep importToken = some s)
    (hreq : ¬ (s.required = true ∧ strip reply.text = "")) :
    GoodAnswers (advanced lower w reply s).answers ∧
      (w.role = some .worker →
        (1 ≤ w.stepIndex → (advanced lower w reply s).answers.endpoint ≠ none) ∧
        (2 ≤ w.stepIndex → (advanced lower w reply s).answers.token ≠ none)) := by
  obtain ⟨h0, h5, hmem⟩ := currentStep_some hs
  refine ⟨h.answers.answered (goodStep hmem) reply.hex fun hr he => hreq ⟨hr, he⟩,
    fun hworker => ?_⟩
  have hkey := key_of_worker hworker hs
  have hkept := answered_ne_none lower w.answers s.key (w.stepDefault reply.hex s)
    (strip reply.text)
  have hasked := h.asked hworker
  refine ⟨fun _ => hkept.1 ?_, fun _ => hkept.2 ?_⟩
  · by_cases h1 : w.stepIndex = 1
    · exact Or.inr (hkey.1 h1)
    · exact Or.inl (hasked.1 (by omega))
  · by_cases h2 : w.stepIndex = 2
    · exact Or.inr (hkey.2 h2)
    · exact Or.inl (hasked.2 (by omega))

theorem Sound.not_complete (h : w.Sound importToken) (hi : w.stepIndex ≤ 5) :
    w.complete ≠ true := by
  intro hc
  have := h.complete_iff.mp hc
  omega

/-- An answer that is rejected, or comes too late, changes the error at most. -/
theorem sound_kept (h : w.Sound importToken) {error : Option String}
    (he : w.step importToken lower reply = { w with error := error })
    (hdone : w.complete = true → w.step importToken lower reply = w) :
    (w.step importToken lower reply).Sound importToken ∧ w.Respects importToken lower reply := by
  refine ⟨he ▸ h.withError error, fun _ => ?_, fun hne => ?_, hdone⟩
  · rw [he]
    exact ⟨rfl, rfl, rfl⟩
  · rw [he] at hne
    exact absurd rfl hne

/-- What is left to show of an answer that is accepted. -/
theorem respects_accepted (hrej : ¬ w.Rejects importToken reply) (hopen : w.complete ≠ true)
    (hsaves : (w.step importToken lower reply).saved ≠ w.saved →
      (w.step importToken lower reply).complete = true) : w.Respects importToken lower reply :=
  ⟨fun hr => absurd hr hrej, fun hne => ⟨Bool.eq_false_iff.mpr hopen, hsaves hne⟩,
    fun hc => absurd hc hopen⟩

/-- The role is named. -/
theorem Sound.named (h : w.Sound importToken) (h0 : w.stepIndex = 0) (role : Role) :
    ({ w with role := some role, stepIndex := 1 } : WizardState).Sound importToken := by
  have hopen := h.not_complete (by omega)
  refine ⟨finishes_of ?_ ?_ ?_ ?_, fun _ => ?_, h.answers, fun _ => ⟨?_, ?_⟩⟩
  · exact (by decide : 1 ≤ 6)
  · exact iff_of_false hopen (by decide : ¬ 1 = 6)
  · exact h.finishes.savedOnce
  · exact h.finishes.usable
  · exact Option.some_ne_none role
  · exact fun h2 => absurd h2 (by decide : ¬ 2 ≤ 1)
  · exact fun h3 => absurd h3 (by decide : ¬ 3 ≤ 1)

variable (lower) in
/-- An answer to another question than the last. -/
theorem Sound.next (h : w.Sound importToken) {s : Step} (hs : w.currentStep importToken = some s)
    (hreq : ¬ (s.required = true ∧ strip reply.text = "")) (hlast : w.stepIndex + 1 ≤ 5) :
    (advanced lower w reply s).Sound importToken := by
  obtain ⟨h0, h5, -⟩ := currentStep_some hs
  obtain ⟨hanswers, hasked⟩ := advanced_facts lower h hs hreq
  have hopen := h.not_complete h5
  refine ⟨finishes_of ?_ ?_ h.finishes.savedOnce h.finishes.usable, fun _ => h.role h0,
    hanswers, fun hw => ⟨fun h2 => ?_, fun h3 => ?_⟩⟩
  · show w.stepIndex + 1 ≤ 6
    omega
  · exact iff_of_false hopen (by show ¬ w.stepIndex + 1 = 6; omega)
  · exact (hasked hw).1 (by omega)
  · have h3' : 3 ≤ w.stepIndex + 1 := h3
    exact (hasked hw).2 (by omega)

variable (lower) in
/-- The last answer completes the wizard, and its config is saved. -/
theorem Sound.last (h : w.Sound importToken) {s : Step} (hs : w.currentStep importToken = some s)
    (hreq : ¬ (s.required = true ∧ strip reply.text = "")) (hlast : w.stepIndex = 5) :
    (({ advanced lower w reply s with complete := true } : WizardState).buildSummary
      reply).2.Sound importToken := by
  obtain ⟨h0, -, -⟩ := currentStep_some hs
  obtain ⟨hanswers, hasked⟩ := advanced_facts lower h hs hreq
  have hsaved := h.saved_nil (by omega)
  have husable : Usable (finalConfig { advanced lower w reply s with complete := true } reply) :=
    usable_finalConfig hanswers (h.role h0) fun hw =>
      ⟨(hasked hw).1 (by omega), (hasked hw).2 (by omega)⟩
  refine ⟨finishes_of ?_ ?_ ?_ ?_, fun _ => h.role h0, hanswers, fun hw => ⟨?_, ?_⟩⟩
  · show w.stepIndex + 1 ≤ 6
    omega
  · exact iff_of_true rfl (by show w.stepIndex + 1 = 6; omega)
  · show (w.saved ++ [_]).length = 1
    rw [hsaved]
    rfl
  · show ∀ config ∈ w.saved ++ [_], Usable config
    rw [hsaved]
    intro config hc
    rw [List.mem_singleton.mp hc]
    exact husable
  · exact fun _ => (hasked hw).1 (by omega)
  · exact fun _ => (hasked hw).2 (by omega)

variable (lower) in
/-- **One answer** keeps the invariant and respects what it must leave alone. -/
theorem sound_step (h : w.Sound importToken) (reply : Reply) :
    (w.step importToken lower reply).Sound importToken ∧
      w.Respects importToken lower reply := by
  by_cases hrej : w.Rejects importToken reply
  · obtain ⟨error, he⟩ : ∃ error, w.step importToken lower reply =
        { w with error := some error } := step_rejected hrej
    refine sound_kept h he fun hc => ?_
    rcases hrej with ⟨h0, -⟩ | ⟨s, hs, -⟩
    · exact absurd hc (h.not_complete (by omega))
    · exact absurd hc (h.not_complete (currentStep_some hs).2.1)
  by_cases h0 : w.stepIndex = 0
  · obtain ⟨role, hrole⟩ := Option.ne_none_iff_exists'.mp fun hn => hrej (Or.inl ⟨h0, hn⟩)
    have hstep : w.step importToken lower reply =
        { w with role := some role, stepIndex := 1 } := step_role h0 hrole
    refine ⟨hstep ▸ h.named h0 role, respects_accepted hrej (h.not_complete (by omega)) ?_⟩
    rw [hstep]
    exact fun hne => absurd rfl hne
  cases hs : w.currentStep importToken with
  | none =>
    have hpast : w.step importToken lower reply = w := step_past h0 hs
    exact sound_kept h hpast fun _ => hpast
  | some s =>
    have hreq : ¬ (s.required = true ∧ strip reply.text = "") := fun hr =>
      hrej (Or.inr ⟨s, hs, hr.1, hr.2⟩)
    obtain ⟨-, h5, -⟩ := currentStep_some hs
    have hstep := step_accepted lower hs hreq
    refine ⟨?_, respects_accepted hrej (h.not_complete h5) ?_⟩
    · rw [hstep]
      split
      · exact h.last lower hs hreq (by omega)
      · exact h.next lower hs hreq (by omega)
    · rw [hstep]
      split
      · exact fun _ => rfl
      · exact fun hne => absurd rfl hne

theorem sound_init : ({} : WizardState).Sound importToken where
  finishes := finishes_of (by decide) (by decide) rfl fun config hc => by cases hc
  role := fun h => absurd rfl h
  answers :=
    { capabilities := fun _ h => by cases h
      port := fun _ h => by cases h
      endpoint := fun _ h => by cases h
      token := fun _ h => by cases h }
  asked := fun h => by cases h

variable (importToken lower) in
/-- **The wizard** finishes with a config that can be used, whatever is answered: every state
is as `Finishes` says and every answer leaves alone what `Respects` says. -/
theorem wizard_finishes_usable (run : List Reply) :
    Always (step importToken lower) (Finishes importToken) {} run ∧
      EachStep (step importToken lower) (Respects importToken lower) {} run := by
  have hsound := always_of_eachStep (I := Sound importToken) (C := fun _ _ => True)
    (fun w reply h _ => (sound_step lower h reply).1) run {} sound_init
    (fun _ _ _ => trivial)
  refine ⟨hsound.imp fun w h => h.finishes, fun l reply hl => ?_⟩
  exact (sound_step lower (hsound l (prefix_of_concat hl)) reply).2

end WizardState

end HermesCluster
