namespace FrameBatch.Plate

def symbols : List String := [
  "0", "1", "2", "3", "4", "5", "6", "7", "8", "9",
  "<Anhui>", "<Beijing>", "<Chongqing>", "<Fujian>",
  "<Gansu>", "<Guangdong>", "<Guangxi>", "<Guizhou>",
  "<Hainan>", "<Hebei>", "<Heilongjiang>", "<Henan>",
  "<HongKong>", "<Hubei>", "<Hunan>", "<InnerMongolia>",
  "<Jiangsu>", "<Jiangxi>", "<Jilin>", "<Liaoning>",
  "<Macau>", "<Ningxia>", "<Qinghai>", "<Shaanxi>",
  "<Shandong>", "<Shanghai>", "<Shanxi>", "<Sichuan>",
  "<Tianjin>", "<Tibet>", "<Xinjiang>", "<Yunnan>",
  "<Zhejiang>", "<police>",
  "A", "B", "C", "D", "E", "F", "G", "H", "I", "J",
  "K", "L", "M", "N", "O", "P", "Q", "R", "S", "T",
  "U", "V", "W", "X", "Y", "Z"]

def sequenceEnd : Int := -1

def maxSequence : Nat := 88

/-- A place in a list counted from its end if negative, and clamped to the list. -/
def clampPlace (length : Nat) (i : Int) : Nat :=
  if i < 0 then (i + length).toNat else min i.toNat length

/-- The symbols from one place up to another; negative places count from the end. -/
def symbolsBetween (start stop : Int) : List String :=
  let first := clampPlace symbols.length start
  (symbols.take (clampPlace symbols.length stop)).drop first

def symbol (i : Nat) : String := symbols.getD i ""

def license (sequence : List Nat) : String := String.join (sequence.map symbol)

end FrameBatch.Plate
