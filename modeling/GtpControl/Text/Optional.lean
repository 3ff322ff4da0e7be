/-! # Values that may be missing, as text -/
namespace GtpControl.Text

def optional (text? : Option String) : String :=
  match text? with
  | some text => s!"Some({text})"
  | none => "None"

end GtpControl.Text
