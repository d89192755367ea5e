import Headway.Calendar.Zone.Basic

/-!
# Zones by name

Some zones of the IANA time zone database, those that the program knows by name. Each zone lists its
changes of offset up to the year from which a yearly rule holds; a zone without such a rule keeps
the offset of its last change. Most changes go to summer time and back, so they are listed as
stretches that alternate between two offsets. `Zone.named?` looks a zone up, and the case of letters
counts. What is proved about services does not rest on this list, other than for single runs.
-/

namespace Headway

namespace Zone

/-! ## Yearly rules -/

/-- From the last Sunday of March to the last Sunday of October, at 01:00 UTC. -/
def europeanSummer (standard : Int) : YearlyRule where
  firstYear := 1996
  standard := standard
  summer := standard + 3600
  start := { month := 3, onOrAfter := 25, second := 3600 }
  stop := { month := 10, onOrAfter := 25, second := 3600 }

/-- From the second Sunday of March to the first Sunday of November, at 02:00 local time. -/
def easternSummer : YearlyRule where
  firstYear := 2007
  standard := -18000
  summer := -14400
  start := { month := 3, onOrAfter := 8, second := 25200 }
  stop := { month := 11, onOrAfter := 1, second := 21600 }

/-- The same, on the island of Newfoundland. -/
def newfoundlandSummer : YearlyRule where
  firstYear := 2012
  standard := -12600
  summer := -9000
  start := { month := 3, onOrAfter := 8, second := 19800 }
  stop := { month := 11, onOrAfter := 1, second := 16200 }

/-- From the first Sunday of October to the first Sunday of April, at 02:00 local time, by half an
hour. -/
def lordHoweSummer : YearlyRule where
  firstYear := 2008
  standard := 37800
  summer := 39600
  start := { month := 10, onOrAfter := 1, second := -30600 }
  stop := { month := 4, onOrAfter := 1, second := -32400 }

/-! ## Changes of offset: the second from which an offset holds, and the offset -/

/-- Changes that alternate between two offsets. The first change leads to the first of them at the
given second, and the gaps between the changes follow. -/
def alternate (offset other second : Int) : List Nat → List (Int × Int)
  | [] => [(second, offset)]
  | gap :: rest => (second, offset) :: alternate other offset (second + gap) rest

def berlinChanges : List (Int × Int) :=
  alternate 3600 7200 (-2422054408)
      [728348008, 13222800, 17028000, 13305600, 18144000, 13305600, 679795200, 81648000,
        12700800, 16329600, 15724800, 15724800, 15724800] ++
    alternate 10800 7200 (-776563200) [10627200] ++
    alternate 3600 7200 (-761180400) [12700800, 15206400, 15642000] ++
    alternate 10800 7200 (-714610800) [4230000] ++
    alternate 3600 7200 (-701910000)
      [16934400, 14515200, 16329600, 15120000, 962841600, 15120000, 15724800, 15724800,
        15724800, 15724800, 15724800, 15724800, 15724800, 16329600, 15724800, 15724800,
        15724800, 15724800, 15724800, 15724800, 15724800, 15724800, 15724800, 15724800,
        15724800, 16329600, 15724800, 15724800, 15724800, 15724800, 15724800, 15724800,
        15724800, 15724800, 15724800, 15724800]

def londonChanges : List (Int × Int) :=
  alternate 0 3600 (-3852662325)
      [2160698325, 11491200, 16329600, 13996800, 16243200, 16416000, 15638400, 15811200,
        15638400, 18230400, 13824000, 15811200, 15033600, 16934400, 16934400, 12700800,
        18144000, 13910400, 18144000, 14515200, 16934400, 14515200, 16329600, 15120000,
        17539200, 14515200, 16934400, 14515200, 16329600, 15120000, 16934400, 14515200,
        16934400, 14515200, 16329600, 15724800, 16934400, 14515200, 16329600, 15120000,
        16934400, 14515200, 16934400, 14515200, 16329600, 15120000, 16934400, 18748800, 8467200] ++
    alternate 7200 3600 (-904518000)
      [8467200, 20563200, 10886400, 20563200, 11491200, 19958400, 14515200, 17020800, 8985600] ++
    alternate 0 3600 (-764805600) [16329600, 15120000, 13910400] ++
    alternate 7200 3600 (-717030000) [10281600] ++
    alternate 0 3600 (-699487200)
      [11491200, 19958400, 13305600, 18144000, 14515200, 16329600, 15120000, 16329600,
        15724800, 16329600, 15120000, 14515200, 16329600, 15120000, 16934400, 14515200,
        17539200, 14515200, 16329600, 15120000, 16934400, 14515200, 16934400, 14515200,
        16329600, 15120000, 15120000, 18748800, 12700800, 18748800, 13305600, 18144000,
        12700800, 18748800, 12700800, 18748800, 12700800, 18748800, 12700800, 19353600, 9676800,
        116726400, 12096000, 19353600, 12096000, 19353600, 12096000, 19353600, 12096000,
        19353600, 12700800, 18748800, 12700800, 18748800, 12700800, 19353600, 12096000,
        19353600, 12096000, 19353600, 13302000, 18144000, 13305600, 18144000, 13305600,
        18144000, 13305600, 18748800, 13305600, 18144000, 13305600, 18144000, 13305600,
        18144000, 13305600, 18144000, 13305600, 18748800, 12700800, 18748800, 13305600,
        18144000, 13305600, 18144000, 13305600, 18144000, 13305600, 18144000, 13305600, 18144000]

def newYorkChanges : List (Int × Int) :=
  alternate (-18000) (-14400) (-2717650800)
      [1084370400, 18140400, 13309200, 18140400, 13309200, 18745200, 15123600, 13302000,
        18752400, 12697200, 18752400, 13302000, 18147600, 13302000, 18147600, 13302000,
        18147600, 13302000, 18147600, 13302000, 18752400, 13302000, 18147600, 13302000,
        18147600, 13302000, 18147600, 13302000, 18147600, 13302000, 18752400, 12697200,
        18752400, 13302000, 18147600, 13302000, 18147600, 13302000, 18147600, 13302000,
        18147600, 13302000, 18752400, 12697200, 18752400, 13302000, 18147600, 13302000,
        11581200, 114822000, 18147600, 13302000, 18147600, 13302000, 18147600, 13302000,
        18147600, 13302000, 18752400, 12697200, 18752400, 13302000, 18147600, 13302000,
        18147600, 13302000, 18147600, 13302000, 18147600, 16326000, 15728400, 15721200,
        15728400, 15721200, 15728400, 15721200, 15728400, 15721200, 15728400, 16326000,
        15728400, 15721200, 15728400, 15721200, 15728400, 15721200, 15728400, 15721200,
        15728400, 16326000, 15123600, 16326000, 15728400, 15721200, 15728400, 15721200,
        15728400, 15721200, 15728400, 15721200, 15728400, 16326000, 15728400, 15721200,
        15728400, 15721200, 6051600, 25398000, 10285200, 21164400, 15728400, 16326000, 15123600,
        16326000, 15728400, 15721200, 15728400, 15721200, 15728400, 15721200, 15728400,
        15721200, 15728400, 16326000, 15123600, 16326000, 15728400, 15721200, 15728400,
        15721200, 15728400, 15721200, 13914000, 17535600, 13914000, 18140400, 13309200,
        18140400, 13309200, 18140400, 13914000, 17535600, 13914000, 17535600, 13914000,
        18140400, 13309200, 18140400, 13309200, 18140400, 13914000, 17535600, 13914000,
        17535600, 13914000, 17535600, 13914000, 18140400, 13309200, 18140400, 13309200,
        18140400, 13914000, 17535600, 13914000, 17535600, 13914000, 18140400, 13309200,
        18140400, 13309200, 18140400]

def saoPauloChanges : List (Int × Int) :=
  alternate (-10800) (-7200) (-1767214412)
      [560256812, 15595200, 15987600, 15548400, 526006800, 11750400, 19785600, 10450800,
        21085200, 10537200, 21085200, 7772400, 335926800, 11228400, 29034000, 5094000, 21171600,
        7772400, 21171600, 10364400, 21171600, 10450800, 557715600, 11487600, 19357200, 9673200,
        21862800, 9068400, 21776400, 9068400, 22381200, 10278000, 21776400, 10278000, 21171600,
        9673200, 22381200, 8463600, 22381200, 10882800, 20566800, 10882800, 20566800, 10278000,
        20566800, 11487600, 20048400, 12610800, 19357200, 11487600, 19357200, 12697200,
        19357200, 11487600, 20566800, 10882800, 22381200, 9068400, 21171600, 10278000, 22554000,
        9500400, 20566800, 10882800, 22381200, 9673200, 19962000, 10882800, 21171600, 10278000,
        21171600, 10882800, 20566800, 10882800, 20566800, 11487600, 20566800, 10278000,
        21171600, 10278000, 21171600, 10882800, 20566800, 10882800, 20566800, 10882800,
        20566800, 10882800, 22381200, 9068400]

/-- From 1987 to 2010 summer time ended at a minute past midnight, an hour earlier by the clock. -/
def stJohnsChanges : List (Int × Int) :=
  alternate (-9052) (-12652) (-1664130548)
      [13993200, 18061200, 16930800, 16495200, 8550000, 22813200, 15721200, 15728400,
        15721200, 16333200, 15116400, 16333200, 15116400, 16333200, 15116400, 16333200,
        15116400, 16333200, 15721200, 15728400, 15721200, 16333200, 15116400, 16333200,
        15116400, 16333200, 15116400, 16333200, 15116400, 16333200, 15721200, 16333200,
        15116400, 16333200, 15116400] ++
    alternate (-12600) (-9000) (-1096921748)
      [3193148, 15116400, 16941600, 12697200, 18752400, 12697200, 18752400, 12697200,
        19357200, 12092400, 19357200, 12697200, 18752400, 12697200, 18752400, 106966800,
        19357200, 12697200, 18752400, 12697200, 18752400, 12697200, 18752400, 12697200,
        19357200, 12697200, 17542800, 13302000, 18147600, 13302000, 18147600, 13302000,
        18147600, 13302000, 18147600, 13302000, 18752400, 13302000, 18147600, 13302000,
        18147600, 13302000, 18147600, 13302000, 18147600, 16326000, 15728400, 15721200,
        15728400, 15721200, 15728400, 15721200, 15728400, 15721200, 15728400, 16326000,
        15123600, 16326000, 15728400, 15721200, 15728400, 15721200, 15728400, 15721200,
        15728400, 15721200, 15728400, 16326000, 15728400, 15721200, 15728400, 15721200,
        15728400, 15721200, 15728400, 15721200, 15728400, 16326000, 15123600, 16326000,
        15728400, 15721200, 15728400, 15721200, 15728400, 15721200, 15728400, 15721200,
        15728400, 16326000, 15123600, 16326000, 15728400, 15721200, 15728400, 15721200,
        15728400, 15721200, 13906860, 17535600] ++
    alternate (-5400) (-12600) 576041460 [18136800] ++
    alternate (-9000) (-12600) 607491060
      [18140400, 13309200, 18140400, 13914000, 17535600, 13914000, 17535600, 13914000,
        18140400, 13309200, 18140400, 13309200, 18140400, 13914000, 17535600, 13914000,
        17535600, 13914000, 17535600, 13914000, 18140400, 13309200, 18140400, 13309200,
        18140400, 13914000, 17535600, 13914000, 17535600, 13914000, 18140400, 13309200,
        18140400, 13309200, 18140400, 11494800, 20559600, 10890000, 20559600, 10890000,
        20559600, 11494800, 20559600, 10890000, 20566740]

def tokyoChanges : List (Int × Int) :=
  alternate 32400 36000 (-2587712400)
      [1903910400, 11491200, 17539200, 13910400, 20563200, 10886400, 20563200, 10886400]

def kolkataChanges : List (Int × Int) :=
  alternate 21200 19270 (-3645237208) [489542408] ++
    alternate 19800 23400 (-2019705670) [1128124270, 19522800, 9421200, 98492400]

def kathmanduChanges : List (Int × Int) :=
  alternate 19800 20700 (-1577943676) [2082845476]

def lordHoweChanges : List (Int × Int) :=
  alternate 36000 37800 (-2364114980) [2716331780] ++
    alternate 41400 37800 372785400
      [11487600, 20566800, 10882800, 20566800, 10882800, 20566800, 10882800] ++
    alternate 39600 37800 499188600
      [12094200, 18750600, 12699000, 19355400, 12699000, 19355400, 12094200, 19355400,
        10884600, 20565000, 10884600, 20565000, 10884600, 20565000, 11489400, 20565000,
        10884600, 20565000, 10884600, 20565000, 13303800, 18145800, 13303800, 18145800,
        13303800, 18145800, 13303800, 18750600, 12699000, 13307400, 18142200, 18750600,
        13303800, 18145800, 13303800, 18145800, 13303800, 18750600, 12699000, 18750600,
        13303800, 18145800, 12699000, 18750600]

def kiritimatiChanges : List (Int × Int) :=
  alternate (-38400) (-36000) (-2177415040) [2485037440] ++
    alternate 50400 50400 788868000 []

def pagoPagoChanges : List (Int × Int) :=
  alternate (-40968) (-39600) (-2445424632) [583545600]

/-! ## The zones -/

/-- Coordinated universal time. -/
def universal : Zone where
  initial := 0

def berlin : Zone where
  initial := 3208
  changes := berlinChanges
  yearly := some (europeanSummer 3600)

def london : Zone where
  initial := -75
  changes := londonChanges
  yearly := some (europeanSummer 0)

def newYork : Zone where
  initial := -17762
  changes := newYorkChanges
  yearly := some easternSummer

def stJohns : Zone where
  initial := -12652
  changes := stJohnsChanges
  yearly := some newfoundlandSummer

def saoPaulo : Zone where
  initial := -11188
  changes := saoPauloChanges

def tokyo : Zone where
  initial := 33539
  changes := tokyoChanges

def kolkata : Zone where
  initial := 21208
  changes := kolkataChanges

def kathmandu : Zone where
  initial := 20476
  changes := kathmanduChanges

def lordHowe : Zone where
  initial := 38180
  changes := lordHoweChanges
  yearly := some lordHoweSummer

def kiritimati : Zone where
  initial := -37760
  changes := kiritimatiChanges

def pagoPago : Zone where
  initial := 45432
  changes := pagoPagoChanges

/-- The zones that are known, each with its name. -/
def all : List (String × Zone) :=
  [("UTC", universal), ("GMT", universal),
    ("Europe/Berlin", berlin), ("Europe/London", london),
    ("America/New_York", newYork), ("America/St_Johns", stJohns), ("America/Sao_Paulo", saoPaulo),
    ("Asia/Tokyo", tokyo), ("Asia/Kolkata", kolkata),
    ("Asia/Kathmandu", kathmandu), ("Australia/Lord_Howe", lordHowe),
    ("Pacific/Kiritimati", kiritimati), ("Pacific/Pago_Pago", pagoPago)]

/-- The zone with a name. -/
def named? (name : String) : Option Zone := all.lookup name

end Zone

end Headway
