import LinkedKeys.Text.Blank
import LinkedKeys.Text.Utf8
import LinkedKeys.Digest.Base64
import LinkedKeys.Digest.Sha256

namespace LinkedKeys

structure KeyLine where
  algorithm : String
  comment : Option String
  fingerprint : Option String
  deriving DecidableEq

namespace KeyLine

def fingerprintOf (raw : List UInt8) : String :=
  "SHA256:" ++ String.ofList (Digest.Base64.encodeUnpadded (Digest.Sha256.digest raw))

-- A body that is not strict base64 has no fingerprint, and its line is still a key line.
def fingerprint? (body : List Char) : Option String :=
  (Digest.Base64.decode body).map fingerprintOf

def ofFields : List (List Char) → Option KeyLine
  | [] => none
  | algorithm :: rest =>
      let comment := (rest.drop 1).map String.ofList
      some {
        algorithm := String.ofList algorithm
        comment := if comment.isEmpty then none else some (" ".intercalate comment)
        fingerprint := rest.head?.bind fingerprint? }

def ofLine (line : List Char) : Option KeyLine :=
  match Text.trim line with
  | [] => none
  | '#' :: _ => none
  | trimmed => ofFields (Text.fields trimmed)

def ofBlob (blob : String) : List KeyLine :=
  (Text.lines blob.toList).filterMap ofLine

def render (line : KeyLine) : String :=
  line.algorithm ++ (line.fingerprint.map (" " ++ ·)).getD "" ++
    (line.comment.map (" (" ++ · ++ ")")).getD ""

end KeyLine

end LinkedKeys
