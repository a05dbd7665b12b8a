import GridDiffusion.Text.Blank
/-! Text in columns: padding to a width, trimming, and lines. Widths count characters. -/
namespace GridDiffusion

/-- A text with spaces after it up to a width; a longer text stays as it is. -/
def Text.padEnd (width : Nat) (text : String) : String :=
  text ++ String.ofList (List.replicate (width - text.length) ' ')

def Text.trimEnd (text : String) : String :=
  String.ofList (text.toList.reverse.dropWhile GridDiffusion.isBlank).reverse

/-- Lines as one text, each with its end. -/
def Text.ofLines (lines : List String) : String := String.join (lines.map (· ++ "\n"))

end GridDiffusion
