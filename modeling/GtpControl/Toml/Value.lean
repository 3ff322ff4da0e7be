/-! # Values of configuration documents -/
namespace GtpControl.Toml

/-- No setting is a fraction or a date, so of those only the kind is kept. -/
inductive Value where
  | string (text : String)
  | integer (n : Int)
  | float
  | boolean (flag : Bool)
  | datetime
  | array (items : List Value)
  | table (entries : List (String × Value))

end GtpControl.Toml
