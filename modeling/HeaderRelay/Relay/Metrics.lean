import HeaderRelay.Number.Shortest
import HeaderRelay.Relay.Note

set_option autoImplicit false

namespace HeaderRelay.Metrics

def count (notes : List Note) (note : Note) : Nat := notes.countP (· == note)

theorem count_append (first second : List Note) (note : Note) :
    count (first ++ second) note = count first note + count second note :=
  List.countP_append

def latest (notes : List Note) (value : Note → Option Nat) : Nat :=
  notes.foldl (fun last note => (value note).getD last) 0

def received (notes : List Note) (kind : RequestKind) : Nat := count notes (.requestBegan kind)

def answered (notes : List Note) (kind : RequestKind) : Nat :=
  count notes (.requestEnded kind true)

/-- Requests of a kind that ended in a fault. -/
def failed (notes : List Note) (kind : RequestKind) : Nat :=
  count notes (.requestEnded kind false)

/-- By how much a note moves the gauge of the requests of a kind. -/
def change (kind : RequestKind) : Note → Int
  | .requestBegan other => if other = kind then 1 else 0
  | .requestEnded other _ => if other = kind then -1 else 0
  | _ => 0

/-- The gauge of the requests of a kind that are under way, which is a count of its own: it goes up
when the handling of a request begins and down when it ends. -/
def gauge (kind : RequestKind) : List Note → Int
  | [] => 0
  | note :: notes => change kind note + gauge kind notes

/-- The word of 64 bits that a gauge holds, read with a sign. -/
def signed (n : Nat) : Int := if Nat.pow 2 63 ≤ n then (n : Int) - Nat.pow 2 64 else n

/-- A whole value, rounded to a floating-point number and written out in full. -/
def valueText (n : Int) : List Char :=
  match Binary64.ofNat n.natAbs with
  | .finite _ m e =>
      if m = 0 then ['0']
      else
        let (digits, k) := Shortest.ofBinary m e
        (if n < 0 then ['-'] else []) ++ Decimal.digits digits ++ List.replicate k.toNat '0'
  | _ => []

/-- A value under a name and labels, the labels in order of their names. -/
structure Sample where
  name : String
  labels : List (String × String)
  value : Int

namespace Sample

def labelText (label : String × String) : String := label.1 ++ "=\"" ++ label.2 ++ "\""

def line (s : Sample) : String :=
  let labels := match s.labels with
    | [] => ""
    | labels => "\x7b" ++ ",".intercalate (labels.map labelText) ++ "\x7d"
  "relayer_" ++ s.name ++ labels ++ " " ++ String.ofList (valueText s.value)

end Sample

/-- A counter without labels. -/
def plain (notes : List Note) (name : String) (note : Note) : Sample :=
  ⟨name, [], count notes note⟩

def labelled (notes : List Note) (name label word : String) (note : Note) : Sample :=
  ⟨name, [(label, word)], count notes note⟩

def nodeSamples (notes : List Note) (node : Endpoint) : List Sample :=
  let labels := [("endpoint", node.word), ("method", "block")]
  let asked := count notes (.nodeAsked node)
  let lacks (why : Absence) : Sample :=
    ⟨"near_rpc_errors", [("cause", why.word), ("endpoint", node.word)],
      count notes (.nodeLacks node why)⟩
  [⟨"near_rpc_queries", labels, asked⟩, ⟨"near_rpc_queries_latency_count", labels, asked⟩,
    lacks .unknown, lacks .notSynced,
    labelled notes "resolver_selections" "endpoint" node.word (.selected node)]

def requestSamples (notes : List Note) (kind : RequestKind) : List Sample :=
  let labels := [("type", kind.word)]
  [⟨"requests_received", labels, received notes kind⟩,
    ⟨"requests_ok", labels, answered notes kind⟩,
    ⟨"err_requests", labels, failed notes kind⟩,
    ⟨"requests_inflight", labels, gauge kind notes⟩]

def epochSamples (notes : List Note) : List Sample :=
  let drift : Note → Option Nat
    | .drifted n => some n
    | _ => none
  let height : Note → Option Nat
    | .committed n => some n
    | _ => none
  let commits := notes.countP fun note => (height note).isSome
  [plain notes "scanner_probes" .probed,
    ⟨"scanner_last_drift", [], signed (latest notes drift)⟩,
    ⟨"epoch_iterations_ok", [], commits⟩,
    ⟨"last_committed_checkpoint", [], signed (latest notes height)⟩] ++
    Fault.Kind.all.map fun kind =>
      labelled notes "epoch_iterations_err" "error_type" kind.label (.iterationFailed kind)

/-- The samples about tasks, results and proofs. -/
def proofSamples (notes : List Note) : List Sample :=
  [plain notes "bus_tasks_published" .taskPublished,
    plain notes "bus_publish_errors" .taskRefused,
    labelled notes "bus_results_received" "status" "OK" (.resultReceived .ok),
    labelled notes "bus_results_received" "status" "ERROR" (.resultReceived .error),
    plain notes "proof_submissions_ok" (.submitted true),
    plain notes "proof_submissions_err" (.submitted false)] ++
    [ProofStatus.inProcessing, .done, .error].map fun status =>
      labelled notes "proof_status_transitions" "status" status.word (.moved status)

def samples (notes : List Note) : List Sample :=
  nodeSamples notes .primary ++ nodeSamples notes .archival ++ epochSamples notes ++
    proofSamples notes ++ requestSamples notes .generateProof ++ requestSamples notes .proofStatus

/-- The lines of all samples that are not zero, in order of their text. -/
def lines (notes : List Note) : List String :=
  (((samples notes).filter (·.value != 0)).map Sample.line).mergeSort
    (fun a b => decide (a ≤ b))

end HeaderRelay.Metrics
