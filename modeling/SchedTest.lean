import SchedTest.PyText
import SchedTest.LineData
import SchedTest.LoadData
import SchedTest.Layout
import SchedTest.TestWorld
import SchedTest.Affinity
import SchedTest.Machine
import SchedTest.Start
import SchedTest.Results
import SchedTest.Fairness
import SchedTest.Torture
import SchedTest.Runner
import SchedTest.Setup
import SchedTest.Effects
import SchedTest.Output
import SchedTest.MinMax
import SchedTest.Closed
import SchedTest.Agreement
import SchedTest.Persist
