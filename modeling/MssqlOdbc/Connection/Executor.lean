import MssqlOdbc.Connection
import MssqlOdbc.Execute.Delivery

/-!
# Fetching

The consumer's side of an `Execute` command: `executeReceiver` sends it and hands out the receiver
of its response stream, and `fetchMany` and `fetchOptional` read from that receiver, for the native
executor and for the `Any` backend.

The end of a stream and the death of the actor are the same event for the receiver: the channel is
closed and `recv` fails.  `Stop` lists the moments at which the actor can stop, and
`fetches_told_iff` says when a consumer is told.
-/

set_option autoImplicit false

namespace MssqlOdbc

variable {C κ A V R : Type}

/-! ## Receivers -/

/-- What comes out of a channel or a stream: the items, and whether its end is seen behind them. -/
structure Received (α : Type) where
  items : List α
  ended : Bool

/-- When the actor stops: before the command is sent, while it is queued (the channel may keep the
command, and with it the response sender, or drop it), in the middle of running it, so that at least
its last event is missing, or not at all. -/
inductive Stop where
  | beforeSend
  | queued (dropped : Bool)
  | during (events : ℕ)
  | never
deriving DecidableEq, Repr

/-- What is left of the events of a command. -/
def Stop.trace {A V : Type} (stop : Stop) (trace : List (Event A V)) : List (Event A V) :=
  match stop with
  | .beforeSend | .queued _ => []
  | .during events => trace.dropLast.take events
  | .never => trace

namespace MssqlConnection

variable {E : Env C κ A V}

/-- The receiver of an `Execute` command, and what the actor does for it.  A command that cannot be
sent takes its response sender with it. -/
def executeReceiver (conn : MssqlConnection E) (stop : Stop) (f : Faults) (sql : String)
    (persistent : Bool) (arguments : Option (List A)) :
    Received (ExecuteResult V) × List (Event A V) :=
  let job : Job A := ⟨.execute sql arguments persistent, f, none⟩
  match stop with
  | .beforeSend => (⟨[], true⟩, [])
  | .queued dropped => (⟨[], dropped⟩, [])
  | .during _ | .never =>
    let ran := stop.trace (conn.drained.actor.process job).trace
    (⟨Wire.items ran, true⟩, ran)

end MssqlConnection

/-- `receiver_to_stream`: item after item until `recv` fails. -/
def receiverToStream (rx : Received (ExecuteResult V)) : Received (ExecuteResult V) := rx

/-- The `fetch_optional` loop: the first row decides, an error ends it, and counts are skipped.
`none` means that it is still waiting. -/
def firstRow (convert : MssqlRow V → Except Error R) (ended : Bool) :
    List (ExecuteResult V) → Option (Except Error (Option R))
  | [] => if ended then some (.ok none) else none
  | .error e :: _ => some (.error e)
  | .ok (.inr row) :: _ => some ((convert row).map some)
  | .ok (.inl _) :: items => firstRow convert ended items

/-! ## The native executor -/

namespace Executor

variable {E : Env C κ A V}

def fetchMany (conn : MssqlConnection E) (stop : Stop) (f : Faults) (sql : String)
    (persistent : Bool) (arguments : Except String (Option (List A))) :
    Received (ExecuteResult V) × List (Event A V) :=
  match arguments.mapError Error.encode with
  | .ok arguments =>
    let (rx, ran) := conn.executeReceiver stop f sql persistent arguments
    (receiverToStream rx, ran)
  | .error e => (⟨[.error e], true⟩, [])

def fetchOptional (conn : MssqlConnection E) (stop : Stop) (f : Faults) (sql : String)
    (persistent : Bool) (arguments : Except String (Option (List A))) :
    Option (Except Error (Option (MssqlRow V))) × List (Event A V) :=
  match arguments.mapError Error.encode with
  | .ok arguments =>
    let (rx, ran) := conn.executeReceiver stop f sql persistent arguments
    (firstRow .ok rx.ended rx.items, ran)
  | .error e => (some (.error e), [])

end Executor

/-! ## The `Any` backend -/

structure AnyQueryResult where
  rowsAffected : ℕ
  lastInsertId : Option ℤ
deriving DecidableEq, Repr

def mapResult (result : MssqlQueryResult) : AnyQueryResult := ⟨result.rowsAffected, none⟩

/-- `receiver_to_any_stream`, with the conversion of a row. -/
def receiverToAnyStream (anyRow : MssqlRow V → Except Error R) (rx : Received (ExecuteResult V)) :
    Received (Except Error (AnyQueryResult ⊕ R)) where
  items := rx.items.map fun
    | .ok (.inl result) => .ok (.inl (mapResult result))
    | .ok (.inr row) => (anyRow row).map .inr
    | .error e => .error e
  ended := rx.ended

namespace AnyConnectionBackend

variable {E : Env C κ A V}

/-- The arguments of an `Any` query, converted: `transpose`. -/
def convertArguments (arguments : Option (Except String (List A))) :
    Except Error (Option (List A)) :=
  match arguments with
  | none => .ok none
  | some (.ok arguments) => .ok (some arguments)
  | some (.error message) => .error (.encode message)

def fetchMany (anyRow : MssqlRow V → Except Error R) (conn : MssqlConnection E) (stop : Stop)
    (f : Faults) (sql : String) (persistent : Bool)
    (arguments : Option (Except String (List A))) :
    Received (Except Error (AnyQueryResult ⊕ R)) × List (Event A V) :=
  let persistent := persistent && arguments.isSome
  match convertArguments arguments with
  | .error e => (⟨[.error e], true⟩, [])
  | .ok arguments =>
    let (rx, ran) := conn.executeReceiver stop f sql persistent arguments
    (receiverToAnyStream anyRow rx, ran)

def fetchOptional (anyRow : MssqlRow V → Except Error R) (conn : MssqlConnection E) (stop : Stop)
    (f : Faults) (sql : String) (persistent : Bool)
    (arguments : Option (Except String (List A))) :
    Option (Except Error (Option R)) × List (Event A V) :=
  let persistent := persistent && arguments.isSome
  match convertArguments arguments with
  | .error e => (some (.error e), [])
  | .ok arguments =>
    let (rx, ran) := conn.executeReceiver stop f sql persistent arguments
    (firstRow anyRow rx.ended rx.items, ran)

end AnyConnectionBackend

/-! ## What a consumer is told -/

/-- The statement was executed and its batch walked to the end. -/
def Completed (sql : String) (ran : List (Event A V)) : Prop :=
  (∃ parameters, .executed sql parameters ∈ ran) ∧ .moreResults .noData ∈ ran

/-- A stream has an error in it. -/
def Received.SeesError {α : Type} (received : Received (Except Error α)) : Prop :=
  ∃ e, .error e ∈ received.items

/-- The last event of a command tells whether it succeeded: the walk has come to the end of the
batch, or an error is sent.  Nothing before it says either. -/
theorem ConnectionActor.processExecute_last {E : Env C κ A V} {actor : ConnectionActor E}
    {f : Faults} (hkeyed : CacheKeyed actor.stmtCache) (sql : String) (args : Option (List A))
    (persistent : Bool) :
    ∃ walk last, (actor.processExecute f none sql args persistent).trace = walk ++ [last] ∧
      .moreResults .noData ∉ walk ∧ (∀ item ∈ Wire.items walk, ∃ a, item = .ok a) ∧
      (last = .moreResults .noData ∧ .executed sql (args.getD []) ∈ walk ∨
        ∃ e, last = .sent (.error e)) := by
  obtain ⟨-, e, htrace⟩ | ⟨-, context, events, hcarries, htrace⟩ :=
    actor.processExecute_open (f := f) hkeyed sql args persistent
  · exact ⟨[], _, htrace, by simp, by simp [Wire.items], Or.inr ⟨e, rfl⟩⟩
  · obtain ⟨walk, hwalk, hevents⟩ := hcarries.ended
    have hitems : ∀ item ∈ Wire.items walk, ∃ a, item = .ok a := by
      intro item hitem
      have hmem : item ∈ Wire.items events := by
        rw [hevents, Wire.items_append]
        exact List.mem_append_left _ hitem
      rw [hcarries.items] at hmem
      obtain ⟨a, -, rfl⟩ := List.mem_map.1 hmem
      exact ⟨a, rfl⟩
    rw [htrace]
    cases hstream : ((E.exec sql (args.getD []) actor.conn.working).1.stream E actor.bufferSettings
      context).error with
    | none =>
      rw [hevents, hstream, if_pos rfl]
      exact ⟨.executed sql (args.getD []) :: walk, .moreResults .noData, by simp,
        by simpa using hwalk, by simpa [Wire.items] using hitems, Or.inl ⟨rfl, by simp⟩⟩
    | some e =>
      rw [hevents, hstream, if_neg (by simp)]
      exact ⟨.executed sql (args.getD []) :: walk, .sent (.error e), by simp, by simpa using hwalk,
        by simpa [Wire.items] using hitems, Or.inr ⟨e, rfl⟩⟩

/-- The events of an execution but the last follow the schedule of its batch. -/
theorem ConnectionActor.processExecute_schedule {E : Env C κ A V} {actor : ConnectionActor E}
    {f : Faults} (hkeyed : CacheKeyed actor.stmtCache) {sql : String} {args : Option (List A)}
    {persistent : Bool}
    (hexecutes : (⟨actor, ⟨none, []⟩⟩ : Session E).Executes f sql args persistent) :
    let batch := (E.exec sql (args.getD []) actor.conn.working).1
    let trace := (actor.processExecute f none sql args persistent).trace
    ∃ rest, none :: schedule (batch.items E actor.bufferSettings) =
      trace.dropLast.map Event.row ++ rest ∧ ∀ row, some row ∉ rest := by
  intro batch trace
  obtain ⟨hnot, -⟩ | ⟨-, context, events, hcarries, htrace⟩ :=
    actor.processExecute_open (f := f) hkeyed sql args persistent
  · exact absurd hexecutes hnot
  obtain ⟨rest, hrest, hnone⟩ := hcarries.rows
  have htrace : trace = _ := htrace
  rw [batch.items_eq context, hrest, htrace]
  cases hstream : (batch.stream E actor.bufferSettings context).error with
  | some e =>
    refine ⟨rest, ?_, hnone⟩
    rw [Option.toList_some, List.map_singleton, List.dropLast_concat]
    rfl
  | none =>
    -- the last event is the step that finds no more results
    obtain ⟨walk, -, hevents⟩ := hcarries.ended
    rw [hstream, if_pos rfl] at hevents
    have hlast : (Event.executed sql (args.getD []) :: events).dropLast =
        .executed sql (args.getD []) :: walk := by
      rw [hevents, ← List.cons_append, List.dropLast_concat]
    refine ⟨none :: rest, ?_, by simpa using hnone⟩
    rw [Option.toList_none, List.map_nil, List.append_nil, hlast, hevents, List.map_append,
      List.append_assoc]
    rfl

/-- The rows among the first events, by the schedule. -/
theorem sent_row_mem_take {events : List (Event A V)} {rows rest : List (Option (MssqlRow V))}
    (hrows : rows = events.map Event.row ++ rest) (hrest : ∀ row, some row ∉ rest) (n : ℕ)
    (row : MssqlRow V) : .sent (.ok (.inr row)) ∈ events.take n ↔ some row ∈ rows.take n := by
  have hrow (event : Event A V) : event.row = some row ↔ event = .sent (.ok (.inr row)) := by
    rcases event with _ | _ | _ | e | count | row' <;> simp [Event.row]
  have hskip : some row ∉ rest.take (n - (events.map Event.row).length) :=
    fun h ↦ hrest row (List.mem_of_mem_take h)
  rw [hrows, List.take_append, List.mem_append, or_iff_left hskip, ← List.map_take, List.mem_map]
  simp only [hrow, exists_eq_right]

namespace MssqlConnection

variable {E : Env C κ A V} {conn : MssqlConnection E} (f : Faults) (sql : String)
  (persistent : Bool) (arguments : Option (List A))

/-- The statement is executed, and the actor stops behind a row of its batch that satisfies `P`. -/
def StopsBehind (conn : MssqlConnection E) (stop : Stop) (f : Faults) (sql : String)
    (persistent : Bool) (arguments : Option (List A)) (P : MssqlRow V → Prop) : Prop :=
  let actor := conn.drained.actor
  let batch := (E.exec sql (arguments.getD []) actor.conn.working).1
  (⟨actor, ⟨none, []⟩⟩ : Session E).Executes f sql arguments persistent ∧
    ∃ events row, stop = .during events ∧ P row ∧
      some row ∈ (none :: schedule (batch.items E actor.bufferSettings)).take events

/-- A row comes out of the receiver of an actor that stops early exactly if the actor stops behind
it. -/
theorem executeReceiver_row (hkeyed : CacheKeyed conn.drained.actor.stmtCache) {stop : Stop}
    (h : stop ≠ .never) (P : MssqlRow V → Prop) :
    (∃ row, .ok (.inr row) ∈ (conn.executeReceiver stop f sql persistent arguments).1.items ∧
      P row) ↔ conn.StopsBehind stop f sql persistent arguments P := by
  cases stop with
  | beforeSend => simp [executeReceiver, StopsBehind]
  | queued dropped => simp [executeReceiver, StopsBehind]
  | never => exact absurd rfl h
  | during n =>
    have hsent (row : MssqlRow V) : .ok (.inr row) ∈ (conn.executeReceiver (.during n) f sql
        persistent arguments).1.items ↔ .sent (.ok (.inr row)) ∈
          (conn.drained.actor.processExecute f none sql arguments persistent).trace.dropLast.take
            n := by
      show .ok (.inr row) ∈ Wire.items _ ↔ _
      exact Wire.mem_items
    by_cases hexecutes : (⟨conn.drained.actor, ⟨none, []⟩⟩ : Session E).Executes f sql arguments
        persistent
    · obtain ⟨rest, hschedule, hrest⟩ :=
        ConnectionActor.processExecute_schedule hkeyed hexecutes
      simp only [hsent, sent_row_mem_take hschedule hrest]
      constructor
      · rintro ⟨row, hrow, hP⟩
        exact ⟨hexecutes, n, row, rfl, hP, hrow⟩
      · rintro ⟨-, _, row, ⟨⟩, hP, hrow⟩
        exact ⟨row, hrow, hP⟩
    · obtain ⟨-, e, htrace⟩ | ⟨hexecutes', -⟩ :=
        conn.drained.actor.processExecute_open (f := f) hkeyed sql arguments persistent
      · simp only [hsent, htrace, List.dropLast_singleton, List.take_nil, List.not_mem_nil,
          false_and, exists_false, false_iff]
        exact fun hstops ↦ hexecutes hstops.1
      · exact absurd hexecutes' hexecutes

/-- An actor that stops early has neither come to the end of the batch nor sent an error. -/
theorem executeReceiver_stopped (hkeyed : CacheKeyed conn.drained.actor.stmtCache) {stop : Stop}
    (h : stop ≠ .never) :
    ¬ Completed sql (conn.executeReceiver stop f sql persistent arguments).2 ∧
      ∀ item ∈ (conn.executeReceiver stop f sql persistent arguments).1.items,
        ∃ a, item = .ok a := by
  cases stop with
  | beforeSend => exact ⟨fun hran ↦ absurd hran.2 List.not_mem_nil, by simp [executeReceiver]⟩
  | queued dropped => exact ⟨fun hran ↦ absurd hran.2 List.not_mem_nil, by simp [executeReceiver]⟩
  | never => exact absurd rfl h
  | during events =>
    obtain ⟨walk, last, htrace, hwalk, hitems, -⟩ :=
      ConnectionActor.processExecute_last (f := f) hkeyed sql arguments persistent
    have hran : (conn.executeReceiver (.during events) f sql persistent arguments).2 =
        walk.take events := by
      show (conn.drained.actor.processExecute f none sql arguments persistent).trace.dropLast.take
        events = _
      rw [htrace, List.dropLast_concat]
    have hsub : walk.take events <+: walk := List.take_prefix _ _
    constructor
    · rw [hran]
      exact fun hcompleted ↦ hwalk (hsub.subset hcompleted.2)
    · show ∀ item ∈ Wire.items (conn.executeReceiver (.during events) f sql persistent arguments).2,
        _
      rw [hran]
      intro item hitem
      refine hitems item ?_
      obtain ⟨rest, hrest⟩ := hsub
      rw [← hrest, Wire.items_append]
      exact List.mem_append_left _ hitem

/-- An actor that runs the command to its end has come to the end of the batch or sent an error. -/
theorem executeReceiver_never (hkeyed : CacheKeyed conn.drained.actor.stmtCache) :
    Completed sql (conn.executeReceiver .never f sql persistent arguments).2 ∨
      ∃ e, .error e ∈ (conn.executeReceiver .never f sql persistent arguments).1.items := by
  obtain ⟨walk, last, htrace, -, -, hlast⟩ :=
    ConnectionActor.processExecute_last (f := f) hkeyed sql arguments persistent
  have hran : (conn.executeReceiver .never f sql persistent arguments).2 = walk ++ [last] := htrace
  rcases hlast with ⟨rfl, hexecuted⟩ | ⟨e, rfl⟩
  · rw [hran]
    exact Or.inl ⟨⟨_, List.mem_append_left _ hexecuted⟩,
      List.mem_append_right _ List.mem_cons_self⟩
  · refine Or.inr ⟨e, ?_⟩
    show .error e ∈ Wire.items (conn.executeReceiver .never f sql persistent arguments).2
    rw [hran, Wire.items_append]
    exact List.mem_append_right _ List.mem_cons_self

end MssqlConnection

/-- An answer of `fetch_optional` that is a row or an error. -/
def Told (answer : Option (Except Error (Option R))) : Prop :=
  ∃ result, answer = some result ∧ result ≠ .ok none

/-- `fetch_optional` has an answer as soon as a row or an error arrives. -/
theorem told_firstRow (convert : MssqlRow V → Except Error R) (ended : Bool)
    (items : List (ExecuteResult V)) : Told (firstRow convert ended items) ↔
      (∃ row, .ok (.inr row) ∈ items) ∨ ∃ e, .error e ∈ items := by
  induction items with
  | nil => cases ended <;> simp [firstRow, Told]
  | cons item items ih =>
    rcases item with e | count | row
    · exact iff_of_true ⟨_, rfl, by simp⟩ (Or.inr ⟨e, List.mem_cons_self⟩)
    · rw [firstRow, ih]
      simp
    · refine iff_of_true ⟨_, rfl, ?_⟩ (Or.inl ⟨row, List.mem_cons_self⟩)
      cases convert row <;> simp [Except.map]

theorem seesError_receiverToAnyStream (anyRow : MssqlRow V → Except Error R)
    (rx : Received (ExecuteResult V)) : (receiverToAnyStream anyRow rx).SeesError ↔
      (∃ row, .ok (.inr row) ∈ rx.items ∧ ∃ e, anyRow row = .error e) ∨
        ∃ e, .error e ∈ rx.items := by
  rw [Received.SeesError, receiverToAnyStream]
  simp only [List.mem_map]
  constructor
  · rintro ⟨e, item, hitem, hconverted⟩
    rcases item with e' | count | row
    · exact Or.inr ⟨e', hitem⟩
    · cases hconverted
    · cases hrow : anyRow row with
      | error e' => exact Or.inl ⟨row, hitem, e', hrow⟩
      | ok r => simp [hrow, Except.map] at hconverted
  · rintro (⟨row, hitem, e, hrow⟩ | ⟨e, hitem⟩)
    · exact ⟨e, _, hitem, by simp [hrow, Except.map]⟩
    · exact ⟨e, _, hitem, rfl⟩

/-- A consumer that is told of every error, and of the rows that satisfy `P` besides, is told of
everything but the end of an actor that stops before such a row. -/
theorem MssqlConnection.executeReceiver_told {E : Env C κ A V} {conn : MssqlConnection E}
    (hkeyed : CacheKeyed conn.drained.actor.stmtCache) {stop : Stop} {f : Faults} {sql : String}
    {persistent : Bool} {arguments : Option (List A)} {told : Prop} {P : MssqlRow V → Prop}
    (htold : told ↔ (∃ row, .ok (.inr row) ∈
        (conn.executeReceiver stop f sql persistent arguments).1.items ∧ P row) ∨
      ∃ e, .error e ∈ (conn.executeReceiver stop f sql persistent arguments).1.items) :
    told ∨ Completed sql (conn.executeReceiver stop f sql persistent arguments).2 ↔
      stop = .never ∨ conn.StopsBehind stop f sql persistent arguments P := by
  rw [htold]
  by_cases h : stop = .never
  · subst h
    refine iff_of_true ?_ (Or.inl rfl)
    obtain hcompleted | herror := executeReceiver_never f sql persistent arguments hkeyed
    · exact Or.inr hcompleted
    · exact Or.inl (Or.inr herror)
  · obtain ⟨hran, hitems⟩ := executeReceiver_stopped f sql persistent arguments hkeyed h
    have hnone : ¬ ∃ e, .error e ∈
        (conn.executeReceiver stop f sql persistent arguments).1.items := by
      rintro ⟨e, he⟩
      obtain ⟨a, ha⟩ := hitems _ he
      cases ha
    rw [executeReceiver_row f sql persistent arguments hkeyed h P]
    simp only [h, hran, hnone, or_false, false_or]

/-- A consumer that waits for the first row. -/
theorem MssqlConnection.executeReceiver_answered {E : Env C κ A V} {conn : MssqlConnection E}
    (hkeyed : CacheKeyed conn.drained.actor.stmtCache) {stop : Stop} {f : Faults} {sql : String}
    {persistent : Bool} {arguments : Option (List A)} (convert : MssqlRow V → Except Error R) :
    let (rx, ran) := conn.executeReceiver stop f sql persistent arguments
    Told (firstRow convert rx.ended rx.items) ∨ Completed sql ran ↔
      stop = .never ∨ conn.StopsBehind stop f sql persistent arguments fun _ ↦ True := by
  refine executeReceiver_told hkeyed ?_
  simp only [and_true]
  exact told_firstRow convert _ _

/-! ## The four ways to fetch -/

section Fetches

variable {E : Env C κ A V} {conn : MssqlConnection E}
  (hkeyed : CacheKeyed conn.drained.actor.stmtCache) (anyRow : MssqlRow V → Except Error R)
  (stop : Stop) (f : Faults) (sql : String) (persistent : Bool)
include hkeyed

theorem Executor.fetchMany_told (arguments : Except String (Option (List A))) :
    let fetched := Executor.fetchMany conn stop f sql persistent arguments
    fetched.1.SeesError ∨ Completed sql fetched.2 ↔
      (∃ message, arguments = .error message) ∨ stop = .never := by
  cases arguments with
  | error message =>
    exact iff_of_true (Or.inl ⟨.encode message, List.mem_cons_self⟩) (Or.inl ⟨message, rfl⟩)
  | ok arguments =>
    have htold : (receiverToStream
        (conn.executeReceiver stop f sql persistent arguments).1).SeesError ↔
          (∃ row, .ok (.inr row) ∈
            (conn.executeReceiver stop f sql persistent arguments).1.items ∧ False) ∨
          ∃ e, .error e ∈ (conn.executeReceiver stop f sql persistent arguments).1.items := by
      simp [Received.SeesError, receiverToStream]
    refine (MssqlConnection.executeReceiver_told hkeyed htold).trans ?_
    simp [MssqlConnection.StopsBehind]

theorem Executor.fetchOptional_told (arguments : Except String (Option (List A))) :
    let fetched := Executor.fetchOptional conn stop f sql persistent arguments
    Told fetched.1 ∨ Completed sql fetched.2 ↔
      (∃ message, arguments = .error message) ∨ stop = .never ∨ ∃ sent, arguments = .ok sent ∧
        conn.StopsBehind stop f sql persistent sent fun _ ↦ True := by
  cases arguments with
  | error message => exact iff_of_true (Or.inl ⟨_, rfl, by simp⟩) (Or.inl ⟨message, rfl⟩)
  | ok arguments =>
    refine (MssqlConnection.executeReceiver_answered hkeyed .ok).trans ?_
    simp

theorem AnyConnectionBackend.fetchMany_told (arguments : Option (Except String (List A))) :
    let fetched := AnyConnectionBackend.fetchMany anyRow conn stop f sql persistent arguments
    fetched.1.SeesError ∨ Completed sql fetched.2 ↔
      (∃ message, arguments = some (.error message)) ∨ stop = .never ∨
        ∃ sent, AnyConnectionBackend.convertArguments arguments = .ok sent ∧
          conn.StopsBehind stop f sql (persistent && arguments.isSome) sent
            fun row ↦ ∃ e, anyRow row = .error e := by
  rcases arguments with _ | message | arguments
  · refine (MssqlConnection.executeReceiver_told hkeyed
      (seesError_receiverToAnyStream anyRow _)).trans ?_
    simp [AnyConnectionBackend.convertArguments]
  · exact iff_of_true (Or.inl ⟨.encode message, List.mem_cons_self⟩) (Or.inl ⟨message, rfl⟩)
  · refine (MssqlConnection.executeReceiver_told hkeyed
      (seesError_receiverToAnyStream anyRow _)).trans ?_
    simp [AnyConnectionBackend.convertArguments]

theorem AnyConnectionBackend.fetchOptional_told (arguments : Option (Except String (List A))) :
    let fetched := AnyConnectionBackend.fetchOptional anyRow conn stop f sql persistent arguments
    Told fetched.1 ∨ Completed sql fetched.2 ↔
      (∃ message, arguments = some (.error message)) ∨ stop = .never ∨
        ∃ sent, AnyConnectionBackend.convertArguments arguments = .ok sent ∧
          conn.StopsBehind stop f sql (persistent && arguments.isSome) sent fun _ ↦ True := by
  rcases arguments with _ | message | arguments
  · refine (MssqlConnection.executeReceiver_answered hkeyed anyRow).trans ?_
    simp [AnyConnectionBackend.convertArguments]
  · exact iff_of_true (Or.inl ⟨_, rfl, by simp⟩) (Or.inl ⟨message, rfl⟩)
  · refine (MssqlConnection.executeReceiver_answered hkeyed anyRow).trans ?_
    simp [AnyConnectionBackend.convertArguments]

end Fetches

/-- **When a consumer is told.**  On a connection with any past, whenever the actor stops: a
consumer that keeps its receiver sees an error, or for `fetch_optional` a row, unless the batch was
walked to its end, exactly if the arguments do not encode, or the actor does not stop, or it stops
behind what the consumer wanted: a row for `fetch_optional`, a row that cannot be converted for the
stream of the `Any` backend. -/
theorem fetches_told_iff {E : Env C κ A V} (contents : C) (capacity : ℕ)
    (settings : MssqlBufferSettings) (jobs : List (Job A)) (depth : ℕ) (stop : Stop) (f : Faults)
    (sql : String) (persistent : Bool) (anyRow : MssqlRow V → Except Error R)
    (arguments : Except String (Option (List A)))
    (anyArguments : Option (Except String (List A))) :
    let conn : MssqlConnection E := ⟨jobs, depth, .connect E contents capacity settings⟩
    let many := Executor.fetchMany conn stop f sql persistent arguments
    let optional := Executor.fetchOptional conn stop f sql persistent arguments
    let anyMany := AnyConnectionBackend.fetchMany anyRow conn stop f sql persistent anyArguments
    let anyOptional :=
      AnyConnectionBackend.fetchOptional anyRow conn stop f sql persistent anyArguments
    (many.1.SeesError ∨ Completed sql many.2 ↔
      (∃ message, arguments = .error message) ∨ stop = .never) ∧
    (Told optional.1 ∨ Completed sql optional.2 ↔
      (∃ message, arguments = .error message) ∨ stop = .never ∨ ∃ sent, arguments = .ok sent ∧
        conn.StopsBehind stop f sql persistent sent fun _ ↦ True) ∧
    (anyMany.1.SeesError ∨ Completed sql anyMany.2 ↔
      (∃ message, anyArguments = some (.error message)) ∨ stop = .never ∨
        ∃ sent, AnyConnectionBackend.convertArguments anyArguments = .ok sent ∧
          conn.StopsBehind stop f sql (persistent && anyArguments.isSome) sent
            fun row ↦ ∃ e, anyRow row = .error e) ∧
    (Told anyOptional.1 ∨ Completed sql anyOptional.2 ↔
      (∃ message, anyArguments = some (.error message)) ∨ stop = .never ∨
        ∃ sent, AnyConnectionBackend.convertArguments anyArguments = .ok sent ∧
          conn.StopsBehind stop f sql (persistent && anyArguments.isSome) sent fun _ ↦ True) := by
  intro conn many optional anyMany anyOptional
  have hkeyed : CacheKeyed conn.drained.actor.stmtCache :=
    ConnectionActor.run_cacheKeyed contents capacity settings jobs
  exact ⟨Executor.fetchMany_told hkeyed stop f sql persistent arguments,
    Executor.fetchOptional_told hkeyed stop f sql persistent arguments,
    AnyConnectionBackend.fetchMany_told hkeyed anyRow stop f sql persistent anyArguments,
    AnyConnectionBackend.fetchOptional_told hkeyed anyRow stop f sql persistent anyArguments⟩

/-- **A statement that was never sent looks like one that did nothing.**  The actor is gone before
an update is sent: the stream of `fetch_many` is empty and ends, `fetch_optional` finds no row, and
nothing was executed. -/
theorem stopped_actor_looks_empty :
    let conn : MssqlConnection Env.quiet := .connectBlocking Env.quiet [] 100 default
    Executor.fetchMany conn .beforeSend .none "UPDATE t SET x = 1" true (.ok none) =
        (⟨[], true⟩, []) ∧
      Executor.fetchOptional conn .beforeSend .none "UPDATE t SET x = 1" true (.ok none) =
        (some (.ok none), []) ∧
      ¬ ∀ (stop : Stop),
        (Executor.fetchMany conn stop .none "UPDATE t SET x = 1" true (.ok none)).1.SeesError ∨
          Completed "UPDATE t SET x = 1"
            (Executor.fetchMany conn stop .none "UPDATE t SET x = 1" true (.ok none)).2 := by
  refine ⟨rfl, rfl, fun h ↦ ?_⟩
  obtain ⟨e, he⟩ | hcompleted := h .beforeSend
  · exact List.not_mem_nil he
  · exact List.not_mem_nil hcompleted.2

end MssqlOdbc
