import StubLinker.Text.Lenient

namespace StubLinker.Archive

/-- The characters that stand for the bytes from 128 on in names without Unicode. -/
def upperCharacters : List Char :=
  ("ÇüéâäàåçêëèïîìÄÅÉæÆôöòûùÿÖÜ¢£¥₧ƒáíóúñÑªº¿⌐¬½¼¡«»░▒▓│┤╡╢╖╕╣║╗╝╜╛┐└┴┬├─┼╞╟╚╔╩╦╠═╬╧╨╤╥╙╘╒╓╫╪┘┌█▄▌▐▀" ++
    "αßΓπΣσµτΦΘΩδ∞φε∩≡±≥≤⌠⌡÷≈°∙·√ⁿ²■\u00a0").toList

def textOf (unicode : Bool) (bs : Bytes) : String :=
  if unicode then Text.lenient bs
  else
    String.ofList (bs.map fun b =>
      if b < 128 then Char.ofNat b.toNat else upperCharacters.getD (b.toNat - 128) '?')

end StubLinker.Archive
