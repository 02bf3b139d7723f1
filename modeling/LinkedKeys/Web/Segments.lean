import LinkedKeys.Text.Pieces
import LinkedKeys.Web.Escape

namespace LinkedKeys.Web

def isDot (segment : List Char) : Bool :=
  segment = ['.'] || segment.map Char.toLower = ['%', '2', 'e']

def isDotDot (segment : List Char) : Bool :=
  [['.', '.'], ['.', '%', '2', 'e'], ['%', '2', 'e', '.'], ['%', '2', 'e', '%', '2', 'e']].contains
    (segment.map Char.toLower)

def isDriveSign (letter sign : Char) : Bool := letter.isAlpha && (sign == ':' || sign == '|')

-- A letter that stands for a disk.
def isDrive (segment : List Char) : Bool :=
  match segment with
  | [letter, sign] => isDriveSign letter sign
  | _ => false

-- No step leads out of a disk, nor out of a segment that goes on behind one with a backslash.
def holdsDrive (segment : List Char) : Bool :=
  match segment with
  | letter :: sign :: rest => isDriveSign letter sign && rest.head?.all (· = '\x5c')
  | _ => false

-- Segments are kept with the last first.
def stepUp (done : List (List Char)) : List (List Char) :=
  match done with
  | last :: rest => if holdsDrive last then last :: rest else rest
  | [] => []

-- A step at the end leaves an empty segment.
def resolve : List (List Char) → List (List Char) → List (List Char)
  | done, [] => done.reverse
  | done, segment :: rest =>
      let close (done : List (List Char)) := if rest = [] then [] :: done else done
      if isDotDot segment then resolve (close (stepUp done)) rest
      else if isDot segment then resolve (close done) rest
      else resolve (segment :: done) rest

-- `cs` stands behind the first slash.
def segments (cs : List Char) : List (List Char) := resolve [] (Text.pieces '/' cs)

-- In a path to a file, a drive is written with a colon.
def drive? (path : List (List Char)) : Option (List (List Char)) :=
  match path with
  | [letter, sign] :: rest =>
      if isDriveSign letter sign then some ([letter, ':'] :: rest) else none
  | _ => none

-- Nor has such a path empty segments in front.
def dropEmpty : List (List Char) → List (List Char)
  | [] :: segment :: rest => dropEmpty (segment :: rest)
  | path => path

end LinkedKeys.Web
