import DevTools.Catalogue
import DevTools.Session
import DevTools.Proofs.Value.Parts

namespace DevTools

/-! ## Phases -/

inductive Phase where
  | unstarted
  | waiting
  | finished
deriving DecidableEq

structure Machine where
  request : Except Fault Value
  result : Value → Except Fault Value

inductive Machine.Step (m : Machine) : Phase → (sent : Value) → Reply → Phase → Prop
  | premature {sent : Value} : sent ≠ .null →
      m.Step .unstarted sent (.fault .notStarted) .unstarted
  | request {message : Value} : m.request = .ok message →
      m.Step .unstarted .null (.request message) .waiting
  | refusal {fault : Fault} : m.request = .error fault →
      m.Step .unstarted .null (.fault fault) .finished
  | result {sent value : Value} : m.result sent = .ok value →
      m.Step .waiting sent (.result value) .finished
  | failure {sent : Value} {fault : Fault} : m.result sent = .error fault →
      m.Step .waiting sent (.fault fault) .finished
  | ended {sent : Value} : m.Step .finished sent (.result .null) .finished

structure Turn where
  phase : Phase
  sent : Value
  reply : Reply

/-- The turns are steps of the machine, each from the phase in which the one before it ends. -/
inductive Machine.Path (m : Machine) : Phase → List Turn → Prop
  | nil {phase : Phase} : m.Path phase []
  | cons {phase next : Phase} {sent : Value} {reply : Reply} {turns : List Turn} :
      m.Step phase sent reply next → m.Path next turns → m.Path phase (⟨phase, sent, reply⟩ :: turns)

def Turn.isRequest (turn : Turn) : Bool :=
  match turn.reply with
  | .request _ => true
  | _ => false

def Turn.isResponse (turn : Turn) : Bool :=
  turn.phase = .waiting

namespace Machine

variable {m : Machine}

theorem Step.unique {phase next next' : Phase} {sent : Value} {reply reply' : Reply}
    (taken : m.Step phase sent reply next) (taken' : m.Step phase sent reply' next') :
    reply = reply' ∧ next = next' := by
  cases taken with
  | premature notNull =>
      cases taken' with
      | premature => exact ⟨rfl, rfl⟩
      | request => exact absurd rfl notNull
      | refusal => exact absurd rfl notNull
  | request written =>
      cases taken' with
      | premature notNull => exact absurd rfl notNull
      | request written' => cases written.symm.trans written'; exact ⟨rfl, rfl⟩
      | refusal written' => cases written.symm.trans written'
  | refusal written =>
      cases taken' with
      | premature notNull => exact absurd rfl notNull
      | request written' => cases written.symm.trans written'
      | refusal written' => cases written.symm.trans written'; exact ⟨rfl, rfl⟩
  | result read =>
      cases taken' with
      | result read' => cases read.symm.trans read'; exact ⟨rfl, rfl⟩
      | failure read' => cases read.symm.trans read'
  | failure read =>
      cases taken' with
      | result read' => cases read.symm.trans read'
      | failure read' => cases read.symm.trans read'; exact ⟨rfl, rfl⟩
  | ended =>
      cases taken'
      exact ⟨rfl, rfl⟩

theorem Path.unique {phase : Phase} {turns turns' : List Turn} (path : m.Path phase turns)
    (path' : m.Path phase turns') (same : turns.map (·.sent) = turns'.map (·.sent)) :
    turns = turns' := by
  induction path generalizing turns' with
  | nil => exact (List.map_eq_nil_iff.mp same.symm).symm
  | cons taken _ ih =>
      cases path' with
      | nil => cases same
      | cons taken' rest' =>
          obtain ⟨rfl, sent⟩ := List.cons.inj same
          obtain ⟨rfl, rfl⟩ := taken.unique taken'
          rw [ih rest' sent]

-- What can still happen from a phase on bounds what does happen, if every step uses it up.
theorem Path.countP_le (test : Turn → Bool) (left : Phase → Nat)
    (step : ∀ {phase next sent reply}, m.Step phase sent reply next →
      (if test ⟨phase, sent, reply⟩ then 1 else 0) + left next ≤ left phase)
    {phase : Phase} {turns : List Turn} (path : m.Path phase turns) :
    turns.countP test ≤ left phase := by
  induction path with
  | nil => exact Nat.zero_le _
  | cons taken _ ih =>
      have used := step taken
      rw [List.countP_cons]
      omega

theorem Path.requests_le {turns : List Turn} (path : m.Path .unstarted turns) :
    turns.countP Turn.isRequest ≤ 1 := by
  refine path.countP_le _ (fun phase => if phase = .unstarted then 1 else 0) ?_
  intro phase next sent reply taken
  cases taken <;> simp [Turn.isRequest]

theorem Path.responses_le {turns : List Turn} (path : m.Path .unstarted turns) :
    turns.countP Turn.isResponse ≤ 1 := by
  refine path.countP_le _ (fun phase => if phase = .finished then 0 else 1) ?_
  intro phase next sent reply taken
  cases taken <;> simp [Turn.isResponse]

end Machine

/-! ## One exchange -/

namespace Exchange

def phase : Exchange → Phase
  | called _ _ => .unstarted
  | requested _ => .waiting
  | finished => .finished

def turns (p : Protocol) (view : Value → Value) : Exchange → List Value → List Turn
  | _, [] => []
  | e, sent :: rest =>
    let (reply, next) := (e.mapArguments view).resume p sent
    ⟨e.phase, sent, reply⟩ :: next.turns p view rest

theorem turns_sent (p : Protocol) (view : Value → Value) (e : Exchange) (values : List Value) :
    (e.turns p view values).map (·.sent) = values := by
  induction values generalizing e with
  | nil => rfl
  | cons sent rest ih => rw [turns, List.map_cons, ih]

def viewed (view : Value → Value) (arguments : List (String × Value)) : List (String × Value) :=
  arguments.map fun (name, v) => (name, view v)

def machine (p : Protocol) (c : Command) (arguments : List (String × Value)) : Machine :=
  ⟨c.request p arguments, c.result p⟩

/-- The exchange comes from a call whose arguments are viewed as these. -/
inductive ComesFrom (view : Value → Value) (c : Command) (arguments : List (String × Value)) :
    Exchange → Prop
  | called {bound : List (String × Value)} : viewed view bound = arguments →
      ComesFrom view c arguments (.called c bound)
  | requested : ComesFrom view c arguments (.requested c)
  | finished : ComesFrom view c arguments .finished

variable {p : Protocol} {view : Value → Value} {c : Command} {arguments : List (String × Value)}

theorem ComesFrom.step {e next : Exchange} {sent : Value} {reply : Reply}
    (stable : viewed view arguments = arguments) (origin : e.ComesFrom view c arguments)
    (resumed : (e.mapArguments view).resume p sent = (reply, next)) :
    next.ComesFrom view c arguments ∧ (machine p c arguments).Step e.phase sent reply next.phase := by
  cases origin with
  | called equal =>
      rename_i bound
      have mapped : (Exchange.called c bound).mapArguments view = .called c arguments := by
        rw [← equal]
        rfl
      rw [mapped, resume] at resumed
      by_cases null : sent = .null
      · subst null
        cases written : c.request p arguments with
        | ok message =>
            simp only [written, Value.isNull, ↓reduceIte, Prod.mk.injEq] at resumed
            obtain ⟨rfl, rfl⟩ := resumed
            exact ⟨.requested, .request written⟩
        | error fault =>
            simp only [written, Value.isNull, ↓reduceIte, Prod.mk.injEq] at resumed
            obtain ⟨rfl, rfl⟩ := resumed
            exact ⟨.finished, .refusal written⟩
      · have notNull : sent.isNull = false := by cases sent <;> first | rfl | exact absurd rfl null
        simp only [notNull, Bool.false_eq_true, ↓reduceIte, Prod.mk.injEq] at resumed
        obtain ⟨rfl, rfl⟩ := resumed
        exact ⟨.called stable, .premature null⟩
  | requested =>
      have mapped : (Exchange.requested c).mapArguments view = .requested c := rfl
      rw [mapped, resume] at resumed
      cases read : c.result p sent with
      | ok value =>
          simp only [read, Prod.mk.injEq] at resumed
          obtain ⟨rfl, rfl⟩ := resumed
          exact ⟨.finished, .result read⟩
      | error fault =>
          simp only [read, Prod.mk.injEq] at resumed
          obtain ⟨rfl, rfl⟩ := resumed
          exact ⟨.finished, .failure read⟩
  | finished =>
      obtain ⟨rfl, rfl⟩ := Prod.mk.inj resumed
      exact ⟨.finished, .ended⟩

theorem ComesFrom.path {e : Exchange} (stable : viewed view arguments = arguments)
    (origin : e.ComesFrom view c arguments) (values : List Value) :
    (machine p c arguments).Path e.phase (e.turns p view values) := by
  induction values generalizing e with
  | nil => exact .nil
  | cons sent rest ih =>
      obtain ⟨origin, taken⟩ := origin.step stable (rfl : (e.mapArguments view).resume p sent = _)
      exact .cons taken (ih origin)

end Exchange

/-! ## Many exchanges -/

namespace Store

variable {current : Nat → Option (List (String × Value))}

theorem graftItems_graftItems {items : List Value}
    (each : ∀ v ∈ items, graft current (graft current v) = graft current v) :
    graftItems current (graftItems current items) = graftItems current items := by
  induction items with
  | nil => rfl
  | cons v rest ih =>
      have tail := ih fun w member => each w (List.mem_cons_of_mem _ member)
      simp only [graftItems, each v List.mem_cons_self, tail]

theorem graftEntries_graftEntries {entries : List (Value × Value)}
    (each : ∀ v ∈ (Value.dict entries).parts, graft current (graft current v) = graft current v) :
    graftEntries current (graftEntries current entries) = graftEntries current entries := by
  induction entries with
  | nil => rfl
  | cons entry rest ih =>
      obtain ⟨key, value, others⟩ := Value.forall_parts_dict_cons.mp each
      simp only [graftEntries, key, value, ih others]

theorem graftFields_graftFields {fields : List (String × Value)}
    (each : ∀ field ∈ fields, graft current (graft current field.2) = graft current field.2) :
    graftFields current (graftFields current fields) = graftFields current fields := by
  induction fields with
  | nil => rfl
  | cons field rest ih =>
      have tail := ih fun w member => each w (List.mem_cons_of_mem _ member)
      simp only [graftFields, each field List.mem_cons_self, tail]

theorem graft_graft (v : Value) : graft current (graft current v) = graft current v := by
  induction v using Value.partsInduction with
  | step v ih =>
      cases v with
      | list items => exact congrArg Value.list (graftItems_graftItems ih)
      | tuple items => exact congrArg Value.tuple (graftItems_graftItems ih)
      | dict entries => exact congrArg Value.dict (graftEntries_graftEntries ih)
      | wrapped type base => exact congrArg (Value.wrapped type) (ih base (.head _))
      | object type fields id =>
          cases id with
          | none =>
              refine congrArg (Value.object type · none) (graftFields_graftFields fun field member => ?_)
              exact ih field.2 (List.mem_map_of_mem member)
          | some id =>
              simp only [graft]
              cases current id <;> rfl
      | _ => rfl

theorem read_read (s : Store) (v : Value) : s.read (s.read v) = s.read v := by
  unfold read
  cases s.objects.size with
  | zero => rfl
  | succ depth => exact graft_graft v

end Store

namespace Session

theorem lookup_setBinding (name other : String) (binding : Binding)
    (bindings : List (String × Binding)) :
    (setBinding name binding bindings).lookup other =
      if other = name then some binding else bindings.lookup other := by
  induction bindings with
  | nil =>
      by_cases same : other = name
      · simp [setBinding, same]
      · simp [setBinding, same, List.lookup_cons, beq_false_of_ne same]
  | cons entry rest ih =>
      obtain ⟨n, b⟩ := entry
      unfold setBinding
      by_cases found : n = name
      · by_cases same : other = name
        · simp [found, same]
        · simp [found, same, List.lookup_cons, beq_false_of_ne same]
      · by_cases here : other = n
        · simp [here, found]
        · simp [found, List.lookup_cons, beq_false_of_ne here, ih]

theorem exchange?_bind (s : Session) (name other : String) (e : Exchange) :
    (s.bind name (.exchange e)).exchange? other =
      if other = name then some e else s.exchange? other := by
  unfold exchange? bind
  simp only [lookup_setBinding]
  by_cases same : other = name
  · simp only [same, ↓reduceIte]
  · simp only [same, ↓reduceIte]

/-- The turns of all exchanges. What is sent to a name without an exchange is lost. -/
def run (p : Protocol) : Session → (sends : List (String × Value)) → List (String × Turn)
  | _, [] => []
  | s, (name, sent) :: rest =>
    match s.exchange? name with
    | some e =>
      let (reply, next) := s.resume p name sent e
      (name, ⟨e.phase, sent, reply⟩) :: next.run p rest
    | none => s.run p rest

def under {α : Type} (name : String) (log : List (String × α)) : List α :=
  (log.filter (·.1 == name)).map (·.2)

theorem under_cons_self {α : Type} (name : String) (a : α) (log : List (String × α)) :
    under name ((name, a) :: log) = a :: under name log := by
  simp [under]

theorem under_cons_of_ne {α : Type} {name other : String} (differ : other ≠ name) (a : α)
    (log : List (String × α)) : under name ((other, a) :: log) = under name log := by
  simp [under, differ]

theorem under_run {p : Protocol} {s : Session} {name : String} {e : Exchange}
    (bound : s.exchange? name = some e) (sends : List (String × Value)) :
    under name (s.run p sends) = e.turns p s.view (under name sends) := by
  induction sends generalizing s e with
  | nil => rfl
  | cons send rest ih =>
      obtain ⟨other, sent⟩ := send
      by_cases same : other = name
      · subst same
        have next : (s.resume p other sent e).2.exchange? other =
            some ((e.mapArguments s.view).resume p sent).2 := by
          simp [resume, exchange?_bind]
        simp only [run, bound, under_cons_self, Exchange.turns, ih next]
        rfl
      · rw [under_cons_of_ne same, run]
        cases found : s.exchange? other with
        | none => exact ih bound
        | some e' =>
            have kept : (s.resume p other sent e').2.exchange? name = some e := by
              simp [resume, exchange?_bind, Ne.symm same, bound]
            simp only [under_cons_of_ne same, ih kept]
            rfl

end Session

open Session Exchange

theorem viewed_viewed (s : Session) (arguments : List (String × Value)) :
    viewed s.view (viewed s.view arguments) = viewed s.view arguments := by
  simp only [viewed, List.map_map]
  refine List.map_congr_left fun argument _ => ?_
  exact congrArg (argument.1, ·) (s.store.read_read argument.2)

theorem run_path {p : Protocol} {s : Session} {name : String} {c : Command}
    {arguments : List (String × Value)} (bound : s.exchange? name = some (.called c arguments))
    (sends : List (String × Value)) :
    (machine p c (viewed s.view arguments)).Path .unstarted (under name (s.run p sends)) := by
  rw [under_run bound]
  exact ComesFrom.path (viewed_viewed s arguments) (.called rfl) _

theorem run_sent {p : Protocol} {s : Session} {name : String} {e : Exchange}
    (bound : s.exchange? name = some e) (sends : List (String × Value)) :
    (under name (s.run p sends)).map (·.sent) = under name sends := by
  rw [under_run bound, turns_sent]

theorem start_ok {c : Command} {positional : List Value} {named : List (String × Value)} {e : Exchange}
    (called : Exchange.start c positional named = .ok e) :
    ∃ arguments, c.signature.bind positional named = .ok arguments ∧ e = .called c arguments := by
  unfold Exchange.start at called
  cases fitting : c.signature.bind positional named with
  | error fault =>
      rw [fitting] at called
      cases called
  | ok arguments =>
      rw [fitting] at called
      cases called
      exact ⟨arguments, rfl, rfl⟩

theorem result_of_returns_nil {p : Protocol} {c : Command} (none : c.returns = []) (response : Value) :
    c.result p response = .ok .null := by
  unfold Command.result
  rw [none]
  rfl

/-- An exchange follows its own machine whatever the others are sent. It makes one request and takes one
response at most, and its turns are the same in every session that views its arguments alike. -/
theorem interleaved_exchange {p : Protocol} {c : Command} {positional : List Value}
    {named : List (String × Value)} {e : Exchange} {s : Session} {name : String}
    (called : Exchange.start c positional named = .ok e) (bound : s.exchange? name = some e)
    (sends : List (String × Value)) :
    ∃ arguments, c.signature.bind positional named = .ok arguments ∧
      let m := machine p c (viewed s.view arguments)
      let turns := under name (s.run p sends)
      turns.map (·.sent) = under name sends ∧ m.Path .unstarted turns ∧
      Fault.notStarted.kind = .type ∧
      turns.countP Turn.isRequest ≤ 1 ∧ turns.countP Turn.isResponse ≤ 1 ∧
      (∀ (s' : Session) name' sends', s'.exchange? name' = some e →
        viewed s'.view arguments = viewed s.view arguments →
        under name' sends' = under name sends → under name' (s'.run p sends') = turns) ∧
      (c.returns = [] → ∀ response, m.result response = .ok .null) := by
  obtain ⟨arguments, fitting, rfl⟩ := start_ok called
  have path := run_path (p := p) bound sends
  refine ⟨arguments, fitting, run_sent bound sends, path, rfl, path.requests_le, path.responses_le, ?_,
    result_of_returns_nil⟩
  intro s' name' sends' bound' alike same
  have path' := run_path (p := p) bound' sends'
  rw [alike] at path'
  refine path'.unique path ?_
  rw [run_sent bound' sends', run_sent bound sends, same]

def getTargets : Command :=
  { name := "get_targets", method := "Target.getTargets", parameters := [],
    returns := [.required "targetInfos" (.many (.ref "target" "TargetInfo"))] }

def twoCalls : Session where
  registry := []
  bindings := [("first", .exchange (.called getTargets [])), ("second", .exchange (.called getTargets []))]

def crosswise : List (String × Value) :=
  [ ("first", .bool true), ("second", .null), ("first", .null), ("second", .dict []),
    ("first", .dict [(.text "targetInfos", .list [])]), ("second", .null), ("first", .null) ]

theorem interleaved_exchange_crosswise :
    protocol.command? "target" "get_targets" = some getTargets ∧
      Exchange.start getTargets [] [] = .ok (.called getTargets []) ∧
      twoCalls.exchange? "first" = some (.called getTargets []) ∧
      let first := under "first" (twoCalls.run protocol crosswise)
      first.map (·.phase) = [.unstarted, .unstarted, .waiting, .finished] ∧
      first.countP Turn.isRequest ≤ 1 ∧ first.countP Turn.isResponse ≤ 1 := by
  have called : Exchange.start getTargets [] [] = .ok (.called getTargets []) := rfl
  have bound : twoCalls.exchange? "first" = some (.called getTargets []) := rfl
  obtain ⟨-, -, -, -, -, requests, responses, -⟩ :=
    interleaved_exchange (p := protocol) called bound crosswise
  exact ⟨rfl, called, bound, rfl, requests, responses⟩

end DevTools
