import Switchboard.Metrics.Exposition

/-!
The pages of the metrics endpoint: the counts, a word on the health of the server, and nothing else. A page
is chosen by how the request begins.
-/

namespace Switchboard.Metrics

def headEnd : String := "\r\n"

def page (type body : String) : String :=
  "HTTP/1.1 200 OK" ++ headEnd ++
  "Content-Type: " ++ type ++ headEnd ++
  "Content-Length: " ++ toString body.utf8ByteSize ++ headEnd ++ headEnd ++ body

/-- The page for everything that is not there. -/
def notFound : String :=
  "HTTP/1.1 404 Not Found" ++ headEnd ++ "Content-Length: 0" ++ headEnd ++ headEnd

def beginsWith (request : List UInt8) (text : String) : Bool :=
  text.toUTF8.toList.isPrefixOf request

/-- The page that answers a request; an empty request has no answer. -/
def answer (m : Metrics) (request : List UInt8) : String :=
  if request.isEmpty then ""
  else if beginsWith request "GET /metrics" || beginsWith request "GET / " then
    page "text/plain; version=0.0.4; charset=utf-8" m.text
  else if beginsWith request "GET /health" then page "text/plain" "OK"
  else notFound

end Switchboard.Metrics
