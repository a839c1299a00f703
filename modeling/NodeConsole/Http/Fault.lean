/-!
Why a request has no answer. Each cause has a chain of texts: what failed, then what caused it.
-/

namespace NodeConsole.Http

inductive HeadFault where
  | closed
  | badVersion
  | badStatus
  | badHeader
  | badLength
  | badEncoding
  | tooLarge
deriving DecidableEq, Repr

def HeadFault.message : HeadFault → String
  | .closed => "connection closed before message completed"
  | .badVersion => "invalid HTTP version parsed"
  | .badStatus => "invalid HTTP status-code parsed"
  | .badHeader => "invalid HTTP header parsed"
  | .badLength => "invalid content-length parsed"
  | .badEncoding => "unexpected transfer-encoding parsed"
  | .tooLarge => "message head is too large"

inductive BodyFault where
  | cutShort
  | noSize
  | badSize
  | sizeOverflow
  | badSizeBlank
  | sizeCutShort
  | badExtension
  | badSizeEnd
  | badChunkReturn
  | badChunkEnd
  | badTrailerEnd
  | badEnd
deriving DecidableEq, Repr

def BodyFault.message : BodyFault → String
  | .cutShort => "end of file before message length reached"
  | .noSize => "Invalid chunk size line: missing size digit"
  | .badSize => "Invalid chunk size line: Invalid Size"
  | .sizeOverflow => "invalid chunk size: overflow"
  | .badSizeBlank => "Invalid chunk size linear white space"
  | .sizeCutShort => "unexpected EOF during chunk size line"
  | .badExtension => "invalid chunk extension contains newline"
  | .badSizeEnd => "Invalid chunk size LF"
  | .badChunkReturn => "Invalid chunk body CR"
  | .badChunkEnd => "Invalid chunk body LF"
  | .badTrailerEnd => "Invalid trailer end LF"
  | .badEnd => "Invalid chunk end LF"

inductive Fault where
  | badHeaderValue
  | badScheme (url : String)
  | badTarget (url : String)
  | unreachable (url : String) (encrypted : Bool)
  | tunnelRefused (url : String)
  | badReply (url : String) (fault : HeadFault)
  | badBody (fault : BodyFault)
  | tooManyRedirects (url : String)
deriving DecidableEq, Repr

def Fault.chain : Fault → List String
  | .badHeaderValue => ["builder error", "failed to parse header value"]
  | .badScheme url => [s!"builder error for url ({url})", "URL scheme is not allowed"]
  | .badTarget url => [s!"builder error for url ({url})", "Parsed Url is not a valid Uri"]
  | .unreachable url encrypted =>
    [s!"error sending request for url ({url})", "client error (Connect)"] ++
      (if encrypted then ["tunnel error: failed to create underlying connection"] else []) ++
      ["tcp connect error", "Network is unreachable (os error 101)"]
  | .tunnelRefused url =>
    [s!"error sending request for url ({url})", "client error (Connect)", "tunnel error: unsuccessful"]
  | .badReply url fault =>
    [s!"error sending request for url ({url})", "client error (SendRequest)", fault.message]
  | .badBody fault =>
    ["error decoding response body", "error reading a body from connection", fault.message]
  | .tooManyRedirects url => [s!"error following redirect for url ({url})", "too many redirects"]

end NodeConsole.Http
