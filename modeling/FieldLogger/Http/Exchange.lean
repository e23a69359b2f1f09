import FieldLogger.Http.Address

/-!
One post over a stream that never blocks. A poll first writes as much of the request as the stream takes, and
reads only when all of it was taken; the first line of the response decides the status. How the stream behaves
is given beforehand: how much each write takes, and what each read brings.
-/

namespace FieldLogger.Http

/-! ### The status line -/

/-- The bytes before the first carriage return that a newline follows. -/
def firstLine? : Bytes → Option Bytes
  | [] => none
  | [_] => none
  | a :: b :: rest => if a = 13 ∧ b = 10 then some [] else (firstLine? (b :: rest)).map (a :: ·)

/-- What the first line of a response says: its second word is the code. -/
def lineStatus (line : Bytes) : PostAnswer :=
  let text := Utf8.lossy line
  match (Text.words text.toList)[1]?.bind (Text.unsigned? UInt16.size) with
  | some code => .completed (UInt16.ofNat code)
  | none => .failed ("Resposta inválida: " ++ text)

/-- What a response says as soon as its first line is complete. -/
def status? (response : Bytes) : Option PostAnswer := (firstLine? response).map lineStatus

/-! ### The stream -/

/-- What a write does. -/
inductive Acceptance where
  /-- At most so many bytes are taken, and at least one. -/
  | taken (most : Nat)
  /-- Nothing is taken now. -/
  | blocked
  /-- Nothing will be taken any more. -/
  | closed
  | failed (reason : String)
  deriving DecidableEq, Repr

/-- What a read brings. -/
inductive Arrival where
  | data (bytes : Bytes)
  /-- Nothing has come yet. -/
  | blocked
  /-- Nothing will come any more. -/
  | ended
  | failed (reason : String)
  deriving DecidableEq, Repr

/-- A stream to a peer: what the peer has got, and what later writes and reads will do. A stream that runs out
of these takes nothing and brings nothing. -/
structure Wire where
  sent : Bytes
  acceptances : List Acceptance
  arrivals : List Arrival
  deriving DecidableEq, Repr

/-! ### The exchange -/

/-- A request on its way and the response so far. -/
structure Exchange where
  request : Bytes
  /-- How much of the request was taken. -/
  written : Nat
  response : Bytes
  deriving DecidableEq, Repr

namespace Exchange

/-- An exchange that has not begun. -/
def ofRequest (request : Bytes) : Exchange := ⟨request, 0, []⟩

/-- How writing ended: all is written, or the poll ends with a status. -/
structure Written where
  exchange : Exchange
  sent : Bytes
  acceptances : List Acceptance
  status? : Option PostStatus

/-- Writes what is left of the request. -/
def write (e : Exchange) (sent : Bytes) : List Acceptance → Written
  | [] => ⟨e, sent, [], if e.written < e.request.length then some .inProgress else none⟩
  | a :: later =>
    if e.written < e.request.length then
      match a with
      | .taken most =>
        let n := min (max most 1) (e.request.length - e.written)
        write { e with written := e.written + n } (sent ++ (e.request.drop e.written).take n) later
      | .blocked => ⟨e, sent, later, some .inProgress⟩
      | .closed => ⟨e, sent, later, some (.failed "Conexão fechada no envio")⟩
      | .failed reason => ⟨e, sent, later, some (.failed reason)⟩
    else ⟨e, sent, a :: later, none⟩

/-- Reads until the response says its status, the stream ends or nothing has come yet. -/
def read (e : Exchange) : List Arrival → PostStatus × Exchange × List Arrival
  | [] => (.inProgress, e, [])
  | .blocked :: later => (.inProgress, e, later)
  | .failed reason :: later => (.failed reason, e, later)
  | .ended :: later =>
    let answer := (status? e.response).getD (.failed "Conexão fechada sem resposta")
    (PostAnswer.status answer, e, later)
  | .data bytes :: later =>
    let e := { e with response := e.response ++ bytes }
    match status? e.response with
    | some answer => (PostAnswer.status answer, e, later)
    | none => read e later

def poll (e : Exchange) (w : Wire) : PostStatus × Exchange × Wire :=
  let written := e.write w.sent w.acceptances
  match written.status? with
  | some status => (status, written.exchange, ⟨written.sent, written.acceptances, w.arrivals⟩)
  | none =>
    let (status, e, arrivals) := written.exchange.read w.arrivals
    (status, e, ⟨written.sent, written.acceptances, arrivals⟩)

end Exchange

/-! ### The transport -/

/-- How connecting ended. -/
inductive Connection where
  | established
  | refused (reason : String)
  /-- It will never be known. -/
  | lost
  deriving DecidableEq, Repr

/-- At most one post on its way. -/
inductive Transport where
  | idle
  /-- Connecting, and how that ended once it did. -/
  | connecting (request : Bytes) (connection : Option Connection)
  | exchanging (e : Exchange)
  deriving DecidableEq, Repr

namespace Transport

/-- Starts a post in place of the one on its way; with an address that is none, there is no post. -/
def start (url body : String) : Except NetworkError Unit × Transport :=
  match Address.parse url with
  | .error e => (.error e, .idle)
  | .ok a => (.ok (), .connecting (Utf8.encode (request a body)) none)

def settle (t : Transport) (c : Connection) : Transport :=
  match t with
  | .connecting request none => .connecting request (some c)
  | t => t

/-- Forgets the post unless it is in progress. -/
def keepWhile (status : PostStatus) (t : Transport) : Transport :=
  if status = .inProgress then t else .idle

/-- Goes on with an exchange over the wire. -/
def pollExchange (e : Exchange) (w : Wire) : PostStatus × Transport × Wire :=
  let (status, e, w) := e.poll w
  (status, keepWhile status (.exchanging e), w)

/-- Goes on with the post as far as that takes no waiting. -/
def poll (t : Transport) (w : Wire) : PostStatus × Transport × Wire :=
  match t with
  | .idle => (.failed "Nenhum envio em andamento", .idle, w)
  | .connecting _ none => (.inProgress, t, w)
  | .connecting _ (some .lost) => (.failed "Conexão interrompida", .idle, w)
  | .connecting _ (some (.refused reason)) => (.failed reason, .idle, w)
  | .connecting request (some .established) => pollExchange (.ofRequest request) w
  | .exchanging e => pollExchange e w

def abort (_ : Transport) : Transport := .idle

end Transport
end FieldLogger.Http
