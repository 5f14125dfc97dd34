import RemoteSql.Envelope
import RemoteSql.Http.Response

/-!
# The wire

The wire stands between the client and its server: it knows what every request will be answered
with and remembers every request that was made. A request is answered by a response or by a failure
to get one.
-/

namespace RemoteSql

/-- Names and values of a form. -/
abbrev Form := List (String × String)

/-- A file name that is made up for one upload: something random and an ending. -/
structure FreshName where
  ending : String
  deriving DecidableEq, Repr

inductive Request
  | get (url : String)
  | post (url : String) (form : Form)
  | multipart (url : String) (form : Form) (fileField : String) (fileName : FreshName)
      (length : Nat) (received : Bytes)
  deriving DecidableEq, Repr

/-- What a request is answered with, and how an upload is read for it. -/
structure Exchange where
  answer : Except String Response
  /-- The size of the buffer that an upload is read into. -/
  uploadBuffer : Nat := 8192
  /-- After how many octets of an upload the server answers without reading on. -/
  uploadLimit : Option Nat := none

/-- What is still to be answered, and what has been asked. -/
structure Wire where
  exchanges : List Exchange := []
  /-- What a request fails with when no exchange is left. -/
  silence : String := "no answer"
  sent : List Request := []

/-- Work on the wire that may fail. -/
abbrev WireM := ExceptT Error (StateM Wire)

namespace Wire

def upcoming (w : Wire) : Exchange := w.exchanges.headD { answer := .error w.silence }

def after (w : Wire) (r : Request) : Wire :=
  { w with exchanges := w.exchanges.tail, sent := w.sent ++ [r] }

def responseOf (answer : Except String Response) : Except Error Response :=
  match answer with
  | .ok response => .ok response
  | .error text => .error (.transport (.other text))

def replyOf (answer : Except String Response) : Except Error Reply :=
  (responseOf answer).bind Response.readReply

def get (url : String) : WireM Reply := fun w =>
  (replyOf w.upcoming.answer, w.after (.get url))

def postStream (url : String) (form : Form) : WireM Response := fun w =>
  (responseOf w.upcoming.answer, w.after (.post url form))

def post (url : String) (form : Form) : WireM Reply := do
  (← postStream url form).readReply

end Wire

end RemoteSql
