namespace LinkedKeys.Report

structure Style where
  colored : Bool := false
  quiet : Bool := false

namespace Style

inductive Paint where
  | bold
  | dimmed
  | red
  | green
  | yellow
  | gray

def Paint.code : Paint → String
  | .bold => "1"
  | .dimmed => "2"
  | .red => "31"
  | .green => "32"
  | .yellow => "33"
  | .gray => "90"

def escape (code : String) : List Char := '\x1b' :: '[' :: code.toList ++ ['m']

-- A reset inside the text would end the paint, so the paint is set again behind it.
def repaint (start : List Char) : List Char → List Char
  | '\x1b' :: '[' :: '0' :: 'm' :: cs => '\x1b' :: '[' :: '0' :: 'm' :: start ++ repaint start cs
  | c :: cs => c :: repaint start cs
  | [] => []

def paint (style : Style) (paint : Paint) (text : String) : String :=
  if style.colored then
    let start := escape paint.code
    String.ofList (start ++ repaint start text.toList ++ escape "0")
  else text

def unlessQuiet (style : Style) (text : String) : String :=
  if style.quiet then "" else text

def success (style : Style) (text : String) : String :=
  style.unlessQuiet ("  " ++ style.paint .green "✓" ++ " " ++ text ++ "\n")

def warning (style : Style) (text : String) : String :=
  style.unlessQuiet ("  " ++ style.paint .yellow "⚠" ++ " " ++ text ++ "\n")

def error (style : Style) (text : String) : String :=
  "  " ++ style.paint .red "✗" ++ " " ++ text ++ "\n"

def header (style : Style) (text : String) : String :=
  style.unlessQuiet ("\n" ++ style.paint .bold text ++ "\n")

end Style

end LinkedKeys.Report
