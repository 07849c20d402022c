import QuoteLint.Json
import QuoteLint.Text.Blank

/-! Messages on a stream: a header with the length of the body in bytes, a blank line, and the
body. -/

namespace QuoteLint.Editor.Frame

def lengthField : List Char := "content-length".toList

def length? (line : String) : Option Nat :=
  let name := line.toList.takeWhile (· != ':')
  if (Text.trim name).map Char.toLower = lengthField then
    (String.ofList (Text.trim ((line.toList.dropWhile (· != ':')).drop 1))).toNat?
  else none

def isEnd (line : String) : Bool := (Text.trim line.toList).isEmpty

def encode (message : Json) : String :=
  let body := String.ofList message.compact
  "Content-Length: " ++ toString body.utf8ByteSize ++ "\r\n\r\n" ++ body

end QuoteLint.Editor.Frame
