import CqlSchema.Text.Quoted

/-! Text values in a statement. -/
namespace CqlSchema.Literal

def text (value : String) : Text := Text.enclosed '\'' value.toList

end CqlSchema.Literal
