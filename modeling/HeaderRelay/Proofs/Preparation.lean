import HeaderRelay.Bus.Publisher
import HeaderRelay.Proofs.Trace

set_option autoImplicit false

namespace HeaderRelay.Bus

namespace Session

variable {α β : Type} {link later : Link} {trace : Trace busServer}

/-- A session comes to its end, from one link to another. -/
def Runs (session : Session α) (link : Link) (trace : Trace busServer) (ended : Except Fault α)
    (later : Link) : Prop :=
  (session.run.run link).Runs trace (some (ended, later))

/-- A session in two parts has run through both, or its first part ended in the fault. -/
theorem runs_bind {session : Session α} {next : α → Session β} {ended : Except Fault β}
    (run : Runs (session >>= next) link trace ended later) :
    (∃ a middle before after, trace = before ++ after ∧ Runs session link before (.ok a) middle ∧
      Runs (next a) middle after ended later) ∨
    ∃ fault, ended = .error fault ∧ Runs session link trace (.error fault) later := by
  obtain ⟨⟨result, middle⟩, before, after, rfl, first, second⟩ := Program.runs_bind_ended run
  cases result with
  | ok a => exact .inl ⟨a, middle, before, after, rfl, first, second⟩
  | error fault =>
    obtain ⟨rfl, ⟨⟩⟩ := Program.runs_done second
    rw [List.append_nil]
    exact .inr ⟨fault, rfl, first⟩

/-- A session that begins with a question goes on with the answer. -/
theorem runs_ask_bind {call : ServerCall} {next : call.Answer → Session β} {ended : Except Fault β}
    (run : Runs (ask call >>= next) link trace ended later) :
    ∃ reply after, trace = ⟨call, some reply⟩ :: after ∧
      Runs (next reply) link after ended later := by
  cases run with
  | answered reply rest => exact ⟨reply, _, rfl, rest⟩

theorem runs_ask {call : ServerCall} {ended : Except Fault call.Answer}
    (run : Runs (ask call) link trace ended later) :
    ∃ reply, trace = [⟨call, some reply⟩] ∧ ended = .ok reply ∧ later = link := by
  cases run with
  | answered reply rest =>
    obtain ⟨rfl, ⟨⟩⟩ := Program.runs_done rest
    exact ⟨reply, rfl, rfl, rfl⟩

theorem runs_return {a : α} {ended : Except Fault α}
    (run : Runs (pure a : Session α) link trace ended later) :
    trace = [] ∧ ended = .ok a ∧ later = link := by
  obtain ⟨rfl, ⟨⟩⟩ := Program.runs_done run
  exact ⟨rfl, rfl, rfl⟩

theorem runs_fail {detail : String} {ended : Except Fault α}
    (run : Runs (fail detail : Session α) link trace ended later) :
    trace = [] ∧ ended = .error ⟨.bus, detail⟩ ∧ later = link := by
  obtain ⟨rfl, ⟨⟩⟩ := Program.runs_done run
  exact ⟨rfl, rfl, rfl⟩

theorem runs_modify {change : Link → Link} {ended : Except Fault Unit}
    (run : Runs (modify change : Session Unit) link trace ended later) :
    trace = [] ∧ ended = .ok () ∧ later = change link := by
  obtain ⟨rfl, ⟨⟩⟩ := Program.runs_done run
  exact ⟨rfl, rfl, rfl⟩

theorem unless_eq (isSetUp : Link → Bool) (session : Session Unit) (link : Link) :
    (do if isSetUp (← get) then return () else session : Session Unit).run.run link =
      if isSetUp link then .done (.ok (), link) else session.run.run link := by
  show ((if isSetUp link then _ else _ : Session Unit).run.run link) = _
  cases isSetUp link <;> rfl

end Session

namespace Publisher

variable {s : Settings} {link later : Link} {trace : Trace busServer} {ended : Except Fault Unit}
  {fault : Fault}

inductive Dialled (s : Settings) : Trace busServer → Except Fault Unit → Prop
  | first : Dialled s [⟨.connect s.url, some true⟩] (.ok ())
  | second :
      Dialled s [⟨.connect s.url, some false⟩, ⟨.pause s.reconnectDelay, some ()⟩,
        ⟨.connect s.url, some true⟩] (.ok ())
  | never :
      Dialled s [⟨.connect s.url, some false⟩, ⟨.pause s.reconnectDelay, some ()⟩,
        ⟨.connect s.url, some false⟩] (.error ⟨.bus, "Failed to connect to " ++ s.url ++ ": *"⟩)

inductive Connected (s : Settings) :
    Link → Trace busServer → Except Fault Unit → Link → Prop
  /-- There is one already. -/
  | kept {link : Link} (connected : link.connected = true) : Connected s link [] (.ok ()) link
  | made {link : Link} {trace : Trace busServer} (missing : link.connected = false)
      (dialled : Dialled s trace (.ok ())) :
      Connected s link trace (.ok ()) { link with connected := true }
  | missing {link : Link} {trace : Trace busServer} {fault : Fault}
      (missing : link.connected = false) (dialled : Dialled s trace (.error fault)) :
      Connected s link trace (.error fault) link

/-- The fault of a stream that is not in place. -/
def misplaced (stream : Stream) : Fault :=
  ⟨.bus, "Failed to create stream " ++ stream.name ++ ": *"⟩

/-- How having a stream in place may end. -/
inductive Placed (stream : Stream) : Trace busServer → Except Fault Unit → Prop
  /-- No stream can have the name, so the server is not asked. -/
  | misnamed (misnamed : isStreamName stream.name = false) :
      Placed stream [] (.error (misplaced stream))
  | found : Placed stream [⟨.findStream stream.name, some .found⟩] (.ok ())
  | unheard : Placed stream [⟨.findStream stream.name, some .failed⟩] (.error (misplaced stream))
  | created :
      Placed stream [⟨.findStream stream.name, some .missing⟩, ⟨.createStream stream, some true⟩]
        (.ok ())
  | refused :
      Placed stream [⟨.findStream stream.name, some .missing⟩, ⟨.createStream stream, some false⟩]
        (.error (misplaced stream))

/-- Connects and has the stream of tasks in place. -/
def prepare (s : Settings) : Session Unit := do
  Session.connect s
  Session.ensureStream (taskStream s)
  modify fun link => { link with ready := true }

/-- How the set-up of the stream of tasks may end. -/
inductive Prepared (s : Settings) (link : Link) :
    Trace busServer → Except Fault Unit → Link → Prop
  | unconnected {trace : Trace busServer} {fault : Fault} {later : Link}
      (connected : Connected s link trace (.error fault) later) :
      Prepared s link trace (.error fault) later
  | unplaced {connecting placing : Trace busServer} {fault : Fault} {later : Link}
      (connected : Connected s link connecting (.ok ()) later)
      (placed : Placed (taskStream s) placing (.error fault)) :
      Prepared s link (connecting ++ placing) (.error fault) later
  | done {connecting placing : Trace busServer} {later : Link}
      (connected : Connected s link connecting (.ok ()) later)
      (placed : Placed (taskStream s) placing (.ok ())) :
      Prepared s link (connecting ++ placing) (.ok ()) { later with ready := true }

theorem dial_cases (run : Session.Runs (Session.dial s) link trace ended later) :
    Dialled s trace ended ∧ later = link := by
  obtain ⟨reached, _, rfl, goes⟩ := Session.runs_ask_bind run
  cases reached with
  | true =>
    obtain ⟨rfl, rfl, rfl⟩ := Session.runs_return goes
    exact ⟨.first, rfl⟩
  | false =>
    obtain ⟨⟨⟩, _, rfl, retries⟩ := Session.runs_ask_bind goes
    obtain ⟨reached, _, rfl, ends⟩ := Session.runs_ask_bind retries
    cases reached with
    | true =>
      obtain ⟨rfl, rfl, rfl⟩ := Session.runs_return ends
      exact ⟨.second, rfl⟩
    | false =>
      obtain ⟨rfl, rfl, rfl⟩ := Session.runs_fail ends
      exact ⟨.never, rfl⟩

theorem connect_eq (s : Settings) (link : Link) :
    (Session.connect s).run.run link =
      if link.connected then .done (.ok (), link)
      else ((do Session.dial s; modify fun link => { link with connected := true }
        : Session Unit)).run.run link :=
  Session.unless_eq Link.connected _ link

theorem connect_cases (run : Session.Runs (Session.connect s) link trace ended later) :
    Connected s link trace ended later := by
  rw [Session.Runs, connect_eq] at run
  cases connected : link.connected with
  | true =>
    rw [connected] at run
    obtain ⟨rfl, ⟨⟩⟩ := Program.runs_done run
    exact .kept connected
  | false =>
    rw [connected] at run
    rcases Session.runs_bind run with ⟨⟨⟩, _, _, _, rfl, dials, keeps⟩ | ⟨fault, rfl, dials⟩
    · obtain ⟨dialled, rfl⟩ := dial_cases dials
      obtain ⟨rfl, rfl, rfl⟩ := Session.runs_modify keeps
      rw [List.append_nil]
      exact .made connected dialled
    · obtain ⟨dialled, rfl⟩ := dial_cases dials
      exact .missing connected dialled

theorem hasStream_cases {stream : Stream} {there : Except Fault Bool}
    (run : Session.Runs (Session.hasStream stream) link trace there later) :
    ∃ inPlace, there = .ok inPlace ∧ later = link ∧
      Placed stream trace (if inPlace then .ok () else .error (misplaced stream)) := by
  rw [Session.hasStream] at run
  cases named : isStreamName stream.name with
  | false =>
    simp only [named, Bool.not_false, if_true] at run
    obtain ⟨rfl, rfl, rfl⟩ := Session.runs_return run
    exact ⟨false, rfl, rfl, .misnamed named⟩
  | true =>
    simp only [named, Bool.not_true, Bool.false_eq_true, if_false] at run
    obtain ⟨finding, _, rfl, goes⟩ := Session.runs_ask_bind run
    cases finding with
    | found =>
      obtain ⟨rfl, rfl, rfl⟩ := Session.runs_return goes
      exact ⟨true, rfl, rfl, .found⟩
    | missing =>
      obtain ⟨created, rfl, rfl, rfl⟩ := Session.runs_ask goes
      cases created with
      | true => exact ⟨true, rfl, rfl, .created⟩
      | false => exact ⟨false, rfl, rfl, .refused⟩
    | failed =>
      obtain ⟨rfl, rfl, rfl⟩ := Session.runs_return goes
      exact ⟨false, rfl, rfl, .unheard⟩

theorem ensureStream_cases {stream : Stream}
    (run : Session.Runs (Session.ensureStream stream) link trace ended later) :
    Placed stream trace ended ∧ later = link := by
  rcases Session.runs_bind run with ⟨inPlace, _, _, _, rfl, looks, goes⟩ | ⟨fault, -, looks⟩
  · obtain ⟨_, ⟨⟩, rfl, placed⟩ := hasStream_cases looks
    cases inPlace with
    | true =>
      obtain ⟨rfl, rfl, rfl⟩ := Session.runs_return goes
      rw [List.append_nil]
      exact ⟨placed, rfl⟩
    | false =>
      obtain ⟨rfl, rfl, rfl⟩ := Session.runs_fail goes
      rw [List.append_nil]
      exact ⟨placed, rfl⟩
  · obtain ⟨_, ⟨⟩, -⟩ := hasStream_cases looks

theorem prepare_cases (run : Session.Runs (prepare s) link trace ended later) :
    Prepared s link trace ended later := by
  rcases Session.runs_bind run with ⟨⟨⟩, _, _, _, rfl, connects, goes⟩ | ⟨fault, rfl, connects⟩
  · rcases Session.runs_bind goes with ⟨⟨⟩, _, _, _, rfl, places, keeps⟩ | ⟨fault, rfl, places⟩
    · obtain ⟨placed, rfl⟩ := ensureStream_cases places
      obtain ⟨rfl, rfl, rfl⟩ := Session.runs_modify keeps
      rw [List.append_nil]
      exact .done (connect_cases connects) placed
    · obtain ⟨placed, rfl⟩ := ensureStream_cases places
      exact .unplaced (connect_cases connects) placed
  · exact .unconnected (connect_cases connects)

/-- A question by which the stream of tasks is set up. -/
inductive SetsUp (s : Settings) : ServerCall → Prop
  | connect : SetsUp s (.connect s.url)
  | pause : SetsUp s (.pause s.reconnectDelay)
  | find : SetsUp s (.findStream s.taskStream)
  | create : SetsUp s (.createStream (taskStream s))

def Connects (s : Settings) (trace : Trace busServer) : Prop :=
  ⟨.connect s.url, some true⟩ ∈ trace

/-- The stream of tasks was found or created. -/
def InPlace (s : Settings) (trace : Trace busServer) : Prop :=
  ⟨.findStream s.taskStream, some Finding.found⟩ ∈ trace ∨
    ⟨.createStream (taskStream s), some true⟩ ∈ trace

theorem Dialled.setsUp (dialled : Dialled s trace ended) :
    ∀ event ∈ trace, SetsUp s event.call := by
  cases dialled <;> simp [SetsUp.connect, SetsUp.pause]

theorem Dialled.ok_iff (dialled : Dialled s trace ended) :
    ended = .ok () ↔ Connects s trace := by
  cases dialled with
  | first => simp [Connects]
  | second => simp [Connects]
  | never => exact ⟨nofun, nofun⟩

theorem Placed.setsUp (placed : Placed (taskStream s) trace ended) :
    ∀ event ∈ trace, SetsUp s event.call := by
  have finds : SetsUp s (.findStream (taskStream s).name) := .find
  cases placed <;> simp [finds, SetsUp.create]

theorem Placed.ok_iff (placed : Placed (taskStream s) trace ended) :
    ended = .ok () ↔ InPlace s trace := by
  cases placed with
  | misnamed => exact ⟨nofun, nofun⟩
  | found => simp [InPlace, taskStream]
  | unheard => exact ⟨nofun, nofun⟩
  | created => simp [InPlace]
  | refused => exact ⟨nofun, nofun⟩

theorem Connected.setsUp (connected : Connected s link trace ended later) :
    ∀ event ∈ trace, SetsUp s event.call := by
  cases connected with
  | kept => simp
  | made _ dialled => exact dialled.setsUp
  | missing _ dialled => exact dialled.setsUp

theorem Connected.ready_eq (connected : Connected s link trace ended later) :
    later.ready = link.ready := by
  cases connected <;> rfl

/-- There is a connection from the first one that is made. -/
theorem Connected.connected_iff (connected : Connected s link trace ended later) :
    later.connected = true ↔ link.connected = true ∨ Connects s trace := by
  cases connected with
  | kept connected => simp [connected]
  | made _ dialled => simp [dialled.ok_iff.mp rfl]
  | missing missing dialled => simp [missing, ← dialled.ok_iff]

theorem Connected.not_inPlace (connected : Connected s link trace ended later) :
    ¬InPlace s trace := by
  cases connected with
  | kept => nofun
  | made _ dialled => cases dialled <;> nofun
  | missing _ dialled => cases dialled; nofun

theorem Placed.not_connects (placed : Placed (taskStream s) trace ended) :
    ¬Connects s trace := by
  cases placed <;> nofun

theorem Prepared.setsUp (prepared : Prepared s link trace ended later) :
    ∀ event ∈ trace, SetsUp s event.call := by
  cases prepared with
  | unconnected connected => exact connected.setsUp
  | unplaced connected placed =>
    exact List.forall_mem_append.mpr ⟨connected.setsUp, placed.setsUp⟩
  | done connected placed => exact List.forall_mem_append.mpr ⟨connected.setsUp, placed.setsUp⟩

theorem Prepared.kind (prepared : Prepared s link trace (.error fault) later) :
    fault.kind = .bus := by
  cases prepared with
  | unconnected connected =>
    cases connected with
    | missing _ dialled => cases dialled; rfl
  | unplaced _ placed => cases placed <;> rfl

theorem inPlace_append {before after : Trace busServer} :
    InPlace s (before ++ after) ↔ InPlace s before ∨ InPlace s after := by
  simp only [InPlace, List.mem_append]
  exact or_or_or_comm

theorem connects_append {before after : Trace busServer} :
    Connects s (before ++ after) ↔ Connects s before ∨ Connects s after :=
  List.mem_append

/-- The set-up goes well exactly if the stream is found or created. -/
theorem Prepared.ok_iff (prepared : Prepared s link trace ended later) :
    ended = .ok () ↔ InPlace s trace := by
  cases prepared with
  | unconnected connected => simp [connected.not_inPlace]
  | unplaced connected placed =>
    rw [inPlace_append, ← placed.ok_iff]
    simp [connected.not_inPlace]
  | done connected placed =>
    rw [inPlace_append, ← placed.ok_iff]
    simp

/-- A connection is kept, whether or not the stream could be had in place. -/
theorem Prepared.connected_iff (prepared : Prepared s link trace ended later) :
    later.connected = true ↔ link.connected = true ∨ Connects s trace := by
  cases prepared with
  | unconnected connected => exact connected.connected_iff
  | unplaced connected placed =>
    rw [connects_append, connected.connected_iff]
    simp [placed.not_connects]
  | done connected placed =>
    rw [connects_append]
    simp [placed.not_connects, connected.connected_iff]

theorem Prepared.ready_iff (prepared : Prepared s link trace ended later) :
    later.ready = true ↔ link.ready = true ∨ ended = .ok () := by
  cases prepared with
  | unconnected connected => simp [connected.ready_eq]
  | unplaced connected => simp [connected.ready_eq]
  | done connected => simp

end Publisher

end HeaderRelay.Bus
