import CompletionWire.Text.CodeTable

/-!
# Big5 for Windows

What a page for Windows changes in the set of traditional Chinese, and adds to it.
-/

namespace CompletionWire

namespace CodeTable

/-- Changes and additions. -/
def cp950 : CodeTable where
  rows := [
    (0xA1, 0x45, "‧"),
    (0xA1, 0x4E, "﹑"),
    (0xA1, 0xC2, "¯"),
    (0xA1, 0xE3, "～"),
    (0xA1, 0xF2, "⊕⊙"),
    (0xA2, 0x41, "∕﹨�￥�￠￡"),
    (0xA3, 0xE1, "€"),
    (0xF9, 0xD6, "碁銹裏墻恒粧嫺╔╦╗╠╬╣╚╩╝╒╤╕╞╪╡╘╧╛╓╥╖╟╫╢╙╨╜║═╭╮╰╯▓")]

end CodeTable

end CompletionWire
