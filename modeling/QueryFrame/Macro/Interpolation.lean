import QueryFrame.Macro.Token

/-!
# Interpolation

Every use of a macro in raw SQL gives way to its expansion, all other text stays as it is, and
neither an expansion nor the text of an argument is looked at again. The error of the first use
that cannot be expanded is the error of the whole text.
-/

namespace QueryFrame

def Token.expand (range : TimeRange) : Token → Except QueryError (List Char)
  | .char c => .ok [c]
  | .word name => .ok (Macro.mark ++ name)
  | .call m inside =>
    let arguments := (inside.map Arguments.ofInside).getD []
    (m.expansion range (arguments.map String.ofList)).map String.toList
  | .unclosed m _ => .error (.unterminatedMacro m.name)

def interpolate (sql : String) (range : TimeRange) : Except QueryError String := do
  let pieces ← (Token.scan sql.toList).mapM (Token.expand range)
  return .ofList pieces.flatten

end QueryFrame
