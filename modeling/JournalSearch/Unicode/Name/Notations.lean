import JournalSearch.Unicode.Name.Run

/-!
Names of characters from U+18800 on: components of large scripts, and notations of music,
mathematics and signing.
-/
namespace JournalSearch.Unicode

def notationNames : List NameRun := [
  ⟨0x18800, "aTANGUT COMPONENT-001bCOMPONENT-002bCOMPONENT-003bCOMPONENT-004bCOMPONENT-005
    bCOMPONENT-006bCOMPONENT-007bCOMPONENT-008bCOMPONENT-009bCOMPONENT-010bCOMPONENT-011
    bCOMPONENT-012bCOMPONENT-013bCOMPONENT-014bCOMPONENT-015bCOMPONENT-016bCOMPONENT-017
    bCOMPONENT-018bCOMPONENT-019bCOMPONENT-020bCOMPONENT-021bCOMPONENT-022bCOMPONENT-023
    bCOMPONENT-024bCOMPONENT-025bCOMPONENT-026bCOMPONENT-027bCOMPONENT-028bCOMPONENT-029
    bCOMPONENT-030bCOMPONENT-031bCOMPONENT-032bCOMPONENT-033bCOMPONENT-034bCOMPONENT-035
    bCOMPONENT-036bCOMPONENT-037bCOMPONENT-038bCOMPONENT-039bCOMPONENT-040bCOMPONENT-041
    bCOMPONENT-042bCOMPONENT-043bCOMPONENT-044bCOMPONENT-045bCOMPONENT-046bCOMPONENT-047
    bCOMPONENT-048bCOMPONENT-049bCOMPONENT-050bCOMPONENT-051bCOMPONENT-052bCOMPONENT-053
    bCOMPONENT-054bCOMPONENT-055bCOMPONENT-056bCOMPONENT-057bCOMPONENT-058bCOMPONENT-059
    bCOMPONENT-060bCOMPONENT-061bCOMPONENT-062bCOMPONENT-063bCOMPONENT-064bCOMPONENT-065
    bCOMPONENT-066bCOMPONENT-067bCOMPONENT-068bCOMPONENT-069bCOMPONENT-070bCOMPONENT-071
    bCOMPONENT-072bCOMPONENT-073bCOMPONENT-074bCOMPONENT-075bCOMPONENT-076bCOMPONENT-077
    bCOMPONENT-078bCOMPONENT-079bCOMPONENT-080bCOMPONENT-081bCOMPONENT-082bCOMPONENT-083
    bCOMPONENT-084bCOMPONENT-085bCOMPONENT-086bCOMPONENT-087bCOMPONENT-088bCOMPONENT-089
    bCOMPONENT-090bCOMPONENT-091bCOMPONENT-092bCOMPONENT-093bCOMPONENT-094bCOMPONENT-095
    bCOMPONENT-096bCOMPONENT-097bCOMPONENT-098bCOMPONENT-099bCOMPONENT-100bCOMPONENT-101
    bCOMPONENT-102bCOMPONENT-103bCOMPONENT-104bCOMPONENT-105bCOMPONENT-106bCOMPONENT-107
    bCOMPONENT-108bCOMPONENT-109bCOMPONENT-110bCOMPONENT-111bCOMPONENT-112bCOMPONENT-113
    bCOMPONENT-114bCOMPONENT-115bCOMPONENT-116bCOMPONENT-117bCOMPONENT-118bCOMPONENT-119
    bCOMPONENT-120bCOMPONENT-121bCOMPONENT-122bCOMPONENT-123bCOMPONENT-124bCOMPONENT-125
    bCOMPONENT-126bCOMPONENT-127bCOMPONENT-128bCOMPONENT-129bCOMPONENT-130bCOMPONENT-131
    bCOMPONENT-132bCOMPONENT-133bCOMPONENT-134bCOMPONENT-135bCOMPONENT-136bCOMPONENT-137
    bCOMPONENT-138bCOMPONENT-139bCOMPONENT-140bCOMPONENT-141bCOMPONENT-142bCOMPONENT-143
    bCOMPONENT-144bCOMPONENT-145bCOMPONENT-146bCOMPONENT-147bCOMPONENT-148bCOMPONENT-149
    bCOMPONENT-150bCOMPONENT-151bCOMPONENT-152bCOMPONENT-153bCOMPONENT-154bCOMPONENT-155
    bCOMPONENT-156bCOMPONENT-157bCOMPONENT-158bCOMPONENT-159bCOMPONENT-160bCOMPONENT-161
    bCOMPONENT-162bCOMPONENT-163bCOMPONENT-164bCOMPONENT-165bCOMPONENT-166bCOMPONENT-167
    bCOMPONENT-168bCOMPONENT-169bCOMPONENT-170bCOMPONENT-171bCOMPONENT-172bCOMPONENT-173
    bCOMPONENT-174bCOMPONENT-175bCOMPONENT-176bCOMPONENT-177bCOMPONENT-178bCOMPONENT-179
    bCOMPONENT-180bCOMPONENT-181bCOMPONENT-182bCOMPONENT-183bCOMPONENT-184bCOMPONENT-185
    bCOMPONENT-186bCOMPONENT-187bCOMPONENT-188bCOMPONENT-189bCOMPONENT-190bCOMPONENT-191
    bCOMPONENT-192bCOMPONENT-193bCOMPONENT-194bCOMPONENT-195bCOMPONENT-196bCOMPONENT-197
    bCOMPONENT-198bCOMPONENT-199bCOMPONENT-200bCOMPONENT-201bCOMPONENT-202bCOMPONENT-203
    bCOMPONENT-204bCOMPONENT-205bCOMPONENT-206bCOMPONENT-207bCOMPONENT-208bCOMPONENT-209
    bCOMPONENT-210bCOMPONENT-211bCOMPONENT-212bCOMPONENT-213bCOMPONENT-214bCOMPONENT-215
    bCOMPONENT-216bCOMPONENT-217bCOMPONENT-218bCOMPONENT-219bCOMPONENT-220bCOMPONENT-221
    bCOMPONENT-222bCOMPONENT-223bCOMPONENT-224bCOMPONENT-225bCOMPONENT-226bCOMPONENT-227
    bCOMPONENT-228bCOMPONENT-229bCOMPONENT-230bCOMPONENT-231bCOMPONENT-232bCOMPONENT-233
    bCOMPONENT-234bCOMPONENT-235bCOMPONENT-236bCOMPONENT-237bCOMPONENT-238bCOMPONENT-239
    bCOMPONENT-240bCOMPONENT-241bCOMPONENT-242bCOMPONENT-243bCOMPONENT-244bCOMPONENT-245
    bCOMPONENT-246bCOMPONENT-247bCOMPONENT-248bCOMPONENT-249bCOMPONENT-250bCOMPONENT-251
    bCOMPONENT-252bCOMPONENT-253bCOMPONENT-254bCOMPONENT-255bCOMPONENT-256bCOMPONENT-257
    bCOMPONENT-258bCOMPONENT-259bCOMPONENT-260bCOMPONENT-261bCOMPONENT-262bCOMPONENT-263
    bCOMPONENT-264bCOMPONENT-265bCOMPONENT-266bCOMPONENT-267bCOMPONENT-268bCOMPONENT-269
    bCOMPONENT-270bCOMPONENT-271bCOMPONENT-272bCOMPONENT-273bCOMPONENT-274bCOMPONENT-275
    bCOMPONENT-276bCOMPONENT-277bCOMPONENT-278bCOMPONENT-279bCOMPONENT-280bCOMPONENT-281
    bCOMPONENT-282bCOMPONENT-283bCOMPONENT-284bCOMPONENT-285bCOMPONENT-286bCOMPONENT-287
    bCOMPONENT-288bCOMPONENT-289bCOMPONENT-290bCOMPONENT-291bCOMPONENT-292bCOMPONENT-293
    bCOMPONENT-294bCOMPONENT-295bCOMPONENT-296bCOMPONENT-297bCOMPONENT-298bCOMPONENT-299
    bCOMPONENT-300bCOMPONENT-301bCOMPONENT-302bCOMPONENT-303bCOMPONENT-304bCOMPONENT-305
    bCOMPONENT-306bCOMPONENT-307bCOMPONENT-308bCOMPONENT-309bCOMPONENT-310bCOMPONENT-311
    bCOMPONENT-312bCOMPONENT-313bCOMPONENT-314bCOMPONENT-315bCOMPONENT-316bCOMPONENT-317
    bCOMPONENT-318bCOMPONENT-319bCOMPONENT-320bCOMPONENT-321bCOMPONENT-322bCOMPONENT-323
    bCOMPONENT-324bCOMPONENT-325bCOMPONENT-326bCOMPONENT-327bCOMPONENT-328bCOMPONENT-329
    bCOMPONENT-330bCOMPONENT-331bCOMPONENT-332bCOMPONENT-333bCOMPONENT-334bCOMPONENT-335
    bCOMPONENT-336bCOMPONENT-337bCOMPONENT-338bCOMPONENT-339bCOMPONENT-340bCOMPONENT-341
    bCOMPONENT-342bCOMPONENT-343bCOMPONENT-344bCOMPONENT-345bCOMPONENT-346bCOMPONENT-347
    bCOMPONENT-348bCOMPONENT-349bCOMPONENT-350bCOMPONENT-351bCOMPONENT-352bCOMPONENT-353
    bCOMPONENT-354bCOMPONENT-355bCOMPONENT-356bCOMPONENT-357bCOMPONENT-358bCOMPONENT-359
    bCOMPONENT-360bCOMPONENT-361bCOMPONENT-362bCOMPONENT-363bCOMPONENT-364bCOMPONENT-365
    bCOMPONENT-366bCOMPONENT-367bCOMPONENT-368bCOMPONENT-369bCOMPONENT-370bCOMPONENT-371
    bCOMPONENT-372bCOMPONENT-373bCOMPONENT-374bCOMPONENT-375bCOMPONENT-376bCOMPONENT-377
    bCOMPONENT-378bCOMPONENT-379bCOMPONENT-380bCOMPONENT-381bCOMPONENT-382bCOMPONENT-383
    bCOMPONENT-384bCOMPONENT-385bCOMPONENT-386bCOMPONENT-387bCOMPONENT-388bCOMPONENT-389
    bCOMPONENT-390bCOMPONENT-391bCOMPONENT-392bCOMPONENT-393bCOMPONENT-394bCOMPONENT-395
    bCOMPONENT-396bCOMPONENT-397bCOMPONENT-398bCOMPONENT-399bCOMPONENT-400bCOMPONENT-401
    bCOMPONENT-402bCOMPONENT-403bCOMPONENT-404bCOMPONENT-405bCOMPONENT-406bCOMPONENT-407
    bCOMPONENT-408bCOMPONENT-409bCOMPONENT-410bCOMPONENT-411bCOMPONENT-412bCOMPONENT-413
    bCOMPONENT-414bCOMPONENT-415bCOMPONENT-416bCOMPONENT-417bCOMPONENT-418bCOMPONENT-419
    bCOMPONENT-420bCOMPONENT-421bCOMPONENT-422bCOMPONENT-423bCOMPONENT-424bCOMPONENT-425
    bCOMPONENT-426bCOMPONENT-427bCOMPONENT-428bCOMPONENT-429bCOMPONENT-430bCOMPONENT-431
    bCOMPONENT-432bCOMPONENT-433bCOMPONENT-434bCOMPONENT-435bCOMPONENT-436bCOMPONENT-437
    bCOMPONENT-438bCOMPONENT-439bCOMPONENT-440bCOMPONENT-441bCOMPONENT-442bCOMPONENT-443
    bCOMPONENT-444bCOMPONENT-445bCOMPONENT-446bCOMPONENT-447bCOMPONENT-448bCOMPONENT-449
    bCOMPONENT-450bCOMPONENT-451bCOMPONENT-452bCOMPONENT-453bCOMPONENT-454bCOMPONENT-455
    bCOMPONENT-456bCOMPONENT-457bCOMPONENT-458bCOMPONENT-459bCOMPONENT-460bCOMPONENT-461
    bCOMPONENT-462bCOMPONENT-463bCOMPONENT-464bCOMPONENT-465bCOMPONENT-466bCOMPONENT-467
    bCOMPONENT-468bCOMPONENT-469bCOMPONENT-470bCOMPONENT-471bCOMPONENT-472bCOMPONENT-473
    bCOMPONENT-474bCOMPONENT-475bCOMPONENT-476bCOMPONENT-477bCOMPONENT-478bCOMPONENT-479
    bCOMPONENT-480bCOMPONENT-481bCOMPONENT-482bCOMPONENT-483bCOMPONENT-484bCOMPONENT-485
    bCOMPONENT-486bCOMPONENT-487bCOMPONENT-488bCOMPONENT-489bCOMPONENT-490bCOMPONENT-491
    bCOMPONENT-492bCOMPONENT-493bCOMPONENT-494bCOMPONENT-495bCOMPONENT-496bCOMPONENT-497
    bCOMPONENT-498bCOMPONENT-499bCOMPONENT-500bCOMPONENT-501bCOMPONENT-502bCOMPONENT-503
    bCOMPONENT-504bCOMPONENT-505bCOMPONENT-506bCOMPONENT-507bCOMPONENT-508bCOMPONENT-509
    bCOMPONENT-510bCOMPONENT-511bCOMPONENT-512bCOMPONENT-513bCOMPONENT-514bCOMPONENT-515
    bCOMPONENT-516bCOMPONENT-517bCOMPONENT-518bCOMPONENT-519bCOMPONENT-520bCOMPONENT-521
    bCOMPONENT-522bCOMPONENT-523bCOMPONENT-524bCOMPONENT-525bCOMPONENT-526bCOMPONENT-527
    bCOMPONENT-528bCOMPONENT-529bCOMPONENT-530bCOMPONENT-531bCOMPONENT-532bCOMPONENT-533
    bCOMPONENT-534bCOMPONENT-535bCOMPONENT-536bCOMPONENT-537bCOMPONENT-538bCOMPONENT-539
    bCOMPONENT-540bCOMPONENT-541bCOMPONENT-542bCOMPONENT-543bCOMPONENT-544bCOMPONENT-545
    bCOMPONENT-546bCOMPONENT-547bCOMPONENT-548bCOMPONENT-549bCOMPONENT-550bCOMPONENT-551
    bCOMPONENT-552bCOMPONENT-553bCOMPONENT-554bCOMPONENT-555bCOMPONENT-556bCOMPONENT-557
    bCOMPONENT-558bCOMPONENT-559bCOMPONENT-560bCOMPONENT-561bCOMPONENT-562bCOMPONENT-563
    bCOMPONENT-564bCOMPONENT-565bCOMPONENT-566bCOMPONENT-567bCOMPONENT-568bCOMPONENT-569
    bCOMPONENT-570bCOMPONENT-571bCOMPONENT-572bCOMPONENT-573bCOMPONENT-574bCOMPONENT-575
    bCOMPONENT-576bCOMPONENT-577bCOMPONENT-578bCOMPONENT-579bCOMPONENT-580bCOMPONENT-581
    bCOMPONENT-582bCOMPONENT-583bCOMPONENT-584bCOMPONENT-585bCOMPONENT-586bCOMPONENT-587
    bCOMPONENT-588bCOMPONENT-589bCOMPONENT-590bCOMPONENT-591bCOMPONENT-592bCOMPONENT-593
    bCOMPONENT-594bCOMPONENT-595bCOMPONENT-596bCOMPONENT-597bCOMPONENT-598bCOMPONENT-599
    bCOMPONENT-600bCOMPONENT-601bCOMPONENT-602bCOMPONENT-603bCOMPONENT-604bCOMPONENT-605
    bCOMPONENT-606bCOMPONENT-607bCOMPONENT-608bCOMPONENT-609bCOMPONENT-610bCOMPONENT-611
    bCOMPONENT-612bCOMPONENT-613bCOMPONENT-614bCOMPONENT-615bCOMPONENT-616bCOMPONENT-617
    bCOMPONENT-618bCOMPONENT-619bCOMPONENT-620bCOMPONENT-621bCOMPONENT-622bCOMPONENT-623
    bCOMPONENT-624bCOMPONENT-625bCOMPONENT-626bCOMPONENT-627bCOMPONENT-628bCOMPONENT-629
    bCOMPONENT-630bCOMPONENT-631bCOMPONENT-632bCOMPONENT-633bCOMPONENT-634bCOMPONENT-635
    bCOMPONENT-636bCOMPONENT-637bCOMPONENT-638bCOMPONENT-639bCOMPONENT-640bCOMPONENT-641
    bCOMPONENT-642bCOMPONENT-643bCOMPONENT-644bCOMPONENT-645bCOMPONENT-646bCOMPONENT-647
    bCOMPONENT-648bCOMPONENT-649bCOMPONENT-650bCOMPONENT-651bCOMPONENT-652bCOMPONENT-653
    bCOMPONENT-654bCOMPONENT-655bCOMPONENT-656bCOMPONENT-657bCOMPONENT-658bCOMPONENT-659
    bCOMPONENT-660bCOMPONENT-661bCOMPONENT-662bCOMPONENT-663bCOMPONENT-664bCOMPONENT-665
    bCOMPONENT-666bCOMPONENT-667bCOMPONENT-668bCOMPONENT-669bCOMPONENT-670bCOMPONENT-671
    bCOMPONENT-672bCOMPONENT-673bCOMPONENT-674bCOMPONENT-675bCOMPONENT-676bCOMPONENT-677
    bCOMPONENT-678bCOMPONENT-679bCOMPONENT-680bCOMPONENT-681bCOMPONENT-682bCOMPONENT-683
    bCOMPONENT-684bCOMPONENT-685bCOMPONENT-686bCOMPONENT-687bCOMPONENT-688bCOMPONENT-689
    bCOMPONENT-690bCOMPONENT-691bCOMPONENT-692bCOMPONENT-693bCOMPONENT-694bCOMPONENT-695
    bCOMPONENT-696bCOMPONENT-697bCOMPONENT-698bCOMPONENT-699bCOMPONENT-700bCOMPONENT-701
    bCOMPONENT-702bCOMPONENT-703bCOMPONENT-704bCOMPONENT-705bCOMPONENT-706bCOMPONENT-707
    bCOMPONENT-708bCOMPONENT-709bCOMPONENT-710bCOMPONENT-711bCOMPONENT-712bCOMPONENT-713
    bCOMPONENT-714bCOMPONENT-715bCOMPONENT-716bCOMPONENT-717bCOMPONENT-718bCOMPONENT-719
    bCOMPONENT-720bCOMPONENT-721bCOMPONENT-722bCOMPONENT-723bCOMPONENT-724bCOMPONENT-725
    bCOMPONENT-726bCOMPONENT-727bCOMPONENT-728bCOMPONENT-729bCOMPONENT-730bCOMPONENT-731
    bCOMPONENT-732bCOMPONENT-733bCOMPONENT-734bCOMPONENT-735bCOMPONENT-736bCOMPONENT-737
    bCOMPONENT-738bCOMPONENT-739bCOMPONENT-740bCOMPONENT-741bCOMPONENT-742bCOMPONENT-743
    bCOMPONENT-744bCOMPONENT-745bCOMPONENT-746bCOMPONENT-747bCOMPONENT-748bCOMPONENT-749
    bCOMPONENT-750bCOMPONENT-751bCOMPONENT-752bCOMPONENT-753bCOMPONENT-754bCOMPONENT-755
    bCOMPONENT-756bCOMPONENT-757bCOMPONENT-758bCOMPONENT-759bCOMPONENT-760bCOMPONENT-761
    bCOMPONENT-762bCOMPONENT-763bCOMPONENT-764bCOMPONENT-765bCOMPONENT-766bCOMPONENT-767
    bCOMPONENT-768"⟩, ⟨0x1aff0, "aKATAKANA LETTER MINNAN TONE-2dTONE-3dTONE-4dTONE-5"⟩,
  ⟨0x1aff5, "aKATAKANA LETTER MINNAN TONE-7dTONE-8dNASALIZED TONE-1eTONE-2eTONE-3eTONE-4eTONE-5"⟩,
  ⟨0x1affd, "aKATAKANA LETTER MINNAN NASALIZED TONE-7eTONE-8"⟩,
  ⟨0x1b000, "aKATAKANA LETTER ARCHAIC EaHIRAGANA LETTER ARCHAIC YEaHENTAIGANA LETTER A-1cA-2cA-3
    cA-WOcI-1cI-2cI-3cI-4cU-1cU-2cU-3cU-4cU-5cE-2cE-3cE-4cE-5cE-6cO-1cO-2cO-3cKA-1cKA-2cKA-3
    cKA-4cKA-5cKA-6cKA-7cKA-8cKA-9cKA-10cKA-11cKA-KEcKI-1cKI-2cKI-3cKI-4cKI-5cKI-6cKI-7cKI-8
    cKU-1cKU-2cKU-3cKU-4cKU-5cKU-6cKU-7cKE-1cKE-2cKE-3cKE-4cKE-5cKE-6cKO-1cKO-2cKO-3cKO-KIcSA-1
    cSA-2cSA-3cSA-4cSA-5cSA-6cSA-7cSA-8cSI-1cSI-2cSI-3cSI-4cSI-5cSI-6cSU-1cSU-2cSU-3cSU-4cSU-5
    cSU-6cSU-7cSU-8cSE-1cSE-2cSE-3cSE-4cSE-5cSO-1cSO-2cSO-3cSO-4cSO-5cSO-6cSO-7cTA-1cTA-2cTA-3
    cTA-4cTI-1cTI-2cTI-3cTI-4cTI-5cTI-6cTI-7cTU-1cTU-2cTU-3cTU-4cTU-TOcTE-1cTE-2cTE-3cTE-4cTE-5
    cTE-6cTE-7cTE-8cTE-9cTO-1cTO-2cTO-3cTO-4cTO-5cTO-6cTO-RAcNA-1cNA-2cNA-3cNA-4cNA-5cNA-6cNA-7
    cNA-8cNA-9cNI-1cNI-2cNI-3cNI-4cNI-5cNI-6cNI-7cNI-TEcNU-1cNU-2cNU-3cNE-1cNE-2cNE-3cNE-4cNE-5
    cNE-6cNE-KOcNO-1cNO-2cNO-3cNO-4cNO-5cHA-1cHA-2cHA-3cHA-4cHA-5cHA-6cHA-7cHA-8cHA-9cHA-10
    cHA-11cHI-1cHI-2cHI-3cHI-4cHI-5cHI-6cHI-7cHU-1cHU-2cHU-3cHE-1cHE-2cHE-3cHE-4cHE-5cHE-6cHE-7
    cHO-1cHO-2cHO-3cHO-4cHO-5cHO-6cHO-7cHO-8cMA-1cMA-2cMA-3cMA-4cMA-5cMA-6cMA-7cMI-1cMI-2cMI-3
    cMI-4cMI-5cMI-6cMI-7cMU-1cMU-2cMU-3cMU-4cME-1cME-2cME-MAcMO-1cMO-2cMO-3cMO-4cMO-5cMO-6cYA-1
    cYA-2cYA-3cYA-4cYA-5cYA-YOcYU-1cYU-2cYU-3cYU-4cYO-1cYO-2cYO-3cYO-4cYO-5cYO-6cRA-1cRA-2cRA-3
    cRA-4cRI-1cRI-2cRI-3cRI-4cRI-5cRI-6cRI-7cRU-1cRU-2cRU-3cRU-4cRU-5cRU-6cRE-1cRE-2cRE-3cRE-4
    cRO-1cRO-2cRO-3cRO-4cRO-5cRO-6cWA-1cWA-2cWA-3cWA-4cWA-5cWI-1cWI-2cWI-3cWI-4cWI-5cWE-1cWE-2
    cWE-3cWE-4cWO-1cWO-2cWO-3cWO-4cWO-5cWO-6cWO-7cN-MU-MO-1cN-MU-MO-2aHIRAGANA LETTER ARCHAIC WU
    aKATAKANA LETTER ARCHAIC YIdYEdWU"⟩, ⟨0x1b150, "aHIRAGANA LETTER SMALL WIdWEdWO"⟩,
  ⟨0x1b164, "aKATAKANA LETTER SMALL WIdWEdWOdN"⟩,
  ⟨0x1bc00, "aDUPLOYAN LETTER HcXcPcTcFcKcLcBcDcVcGcRcP NcD ScF NcK McR ScTHcSLOAN DHcDHcKK
    cSLOAN JcHLcLHcRHcMcNcJcScM NcN McJ McS JcM WITH DOTcN WITH DOTcJ WITH DOT
    eDOTS INSIDE AND ABOVEcS WITH DOTfBELOWcM ScN ScJ ScS ScM N ScN M ScJ M ScS J ScJ S WITH DOT
    dNeScS TeRdPeRcT SdR ScWcWHcW RcS NdMcK R ScG R ScS KeRcAcSLOAN OWcOAcOcAOUcIcEcIEcSHORT I
    cUIcEEcSLOAN EHcROMANIAN IcSLOAN EEcLONG IcYEcUcEUcXWcU NcLONG UcROMANIAN UcUHcSLOAN UcOOH
    cOWcOUcWAcWOcWIcWEIcWOWcNASAL UdOdIdAcPERNIN ANdAMcSLOAN ENdANdONcVOCALIC M"⟩,
  ⟨0x1bc70, "aDUPLOYAN AFFIX LEFT HORIZONTAL SECANTcMID HORIZONTAL SECANT
    cRIGHT HORIZONTAL SECANTcLOW VERTICAL SECANTcMID VERTICAL SECANTcHIGH VERTICAL SECANT
    cATTACHED SECANTdLEFT-TO-RIGHT SECANTdTANGENTdTAILdE HOOKdI HOOKdTANGENT HOOK"⟩,
  ⟨0x1bc80, "aDUPLOYAN AFFIX HIGH ACUTEdTIGHT ACUTEdGRAVEdLONG GRAVEdDOTdCIRCLEdLINEdWAVE
    dVERTICAL"⟩,
  ⟨0x1bc90, "aDUPLOYAN AFFIX LOW ACUTEdTIGHT ACUTEdGRAVEdLONG GRAVEdDOTdCIRCLEdLINEdWAVE
    dVERTICALdARROW"⟩, ⟨0x1bc9c, "aDUPLOYAN SIGN O WITH CROSSbTHICK LETTER SELECTORbDOUBLE MARK
    bPUNCTUATION CHINOOK FULL STOPaSHORTHAND FORMAT LETTER OVERLAPcCONTINUING OVERLAPcDOWN STEP
    cUP STEP"⟩,
  ⟨0x1cf00, "aZNAMENNY COMBINING MARK GORAZDO NIZKO S KRYZHEM ON LEFTdNIZKO S KRYZHEM ON LEFT
    dTSATA ON LEFTdGORAZDO NIZKO ON LEFTdNIZKO ON LEFTdSREDNE ON LEFTdMALO POVYSHE ON LEFT
    dPOVYSHE ON LEFTdVYSOKO ON LEFTdMALO POVYSHE S KHOKHLOM ON LEFTdPOVYSHE S KHOKHLOM ON LEFT
    dVYSOKO S KHOKHLOM ON LEFTdGORAZDO NIZKO S KRYZHEM ON RIGHTdNIZKO S KRYZHEM ON RIGHT
    dTSATA ON RIGHTdGORAZDO NIZKO ON RIGHTdNIZKO ON RIGHTdSREDNE ON RIGHTdMALO POVYSHE ON RIGHT
    dPOVYSHE ON RIGHTdVYSOKO ON RIGHTdMALO POVYSHE S KHOKHLOM ON RIGHT
    dPOVYSHE S KHOKHLOM ON RIGHTdVYSOKO S KHOKHLOM ON RIGHTdTSATA S KRYZHEM
    dMALO POVYSHE S KRYZHEMdSTRANNO MALO POVYSHEdPOVYSHE S KRYZHEMeSTRANNOdVYSOKO S KRYZHEM
    dMALO POVYSHE STRANNOdGORAZDO VYSOKOdZELOdONdRAVNOdTIKHAYAdBORZAYAdUDARKAdPODVERTKAdLOMKA
    dKUPNAYAdKACHKAdZEVOKdSKOBAdRAZSEKAdKRYZH ON LEFT"⟩,
  ⟨0x1cf30, "aZNAMENNY COMBINING TONAL RANGE MARK MRACHNOfSVETLOfTRESVETLOcMARK ZADERZHKA
    dDEMESTVENNY ZADERZHKAdOTSECHKAdPODCHASHIEeWITH VERTICAL STROKEdCHASHKAePOLNAYAdOBLACHKO
    dSOROCHYA NOZHKAdTOCHKAdDVOETOCHIEcATTACHING VERTICAL OMETcMARK CURVED OMETdKRYZH
    cLOWER TONAL RANGE INDICATORbPRIZNAK MODIFIER LEVEL-2dLEVEL-3dDIRECTION FLIPdKRYZHdROG"⟩,
  ⟨0x1cf50, "aZNAMENNY NEUME KRYUKdTIKHYcPARAKLITcDVA V CHELNUcKLYUCHcZANOZHEKcSTOPITSAdS OCHKOM
    cPEREVODKAdNEPOSTOYANNAYAcSTOPITSA WITH SOROCHYA NOZHKAcCHELYUSTKAcPALKAcZAPYATAYA
    cGOLUBCHIK BORZYdTIKHYdMRACHNYdSVETLYdTRESVETLYcVRAKHIYA PROSTAYAdMRACHNAYAdSVETLAYA
    dTRESVETLAYAdKLYUCHEVAYA PROSTAYAeMRACHNAYAeSVETLAYAeTRESVETLAYAcDOUBLE ZAPYATAYA
    cREVERSED CHELYUSTKAcDERBITSAcKHAMILOcCHASHKAcPODCHASHIEcSKAMEYTSA MRACHNAYAdSVETLAYA
    dTRESVETLAYAdTIKHAYAcDEMESTVENNY KLYUCHcSKAMEYTSA KLYUCHEVAYA SVETLAYAdKLYUCHENEPOSTOYANNAYA
    dKLYUCHEVAYA TIKHAYAdDVOECHELNAYA PROSTAYAeSVETLAYAeNEPOSTOYANNAYAeKLYUCHEVAYAcSLOZHITIE
    dS ZAPYATOYdZAKRYTOEdS KRYZHEMcKRYZHcROGcFITAcKOBYLAcZMEYTSAcSTATYAdS ZAPYATOYeKRYZHEM
    eZAPYATOY I KRYZHEMeKRYZHEM I ZAPYATOYdZAKRYTAYAeS ZAPYATOYdS ROGOMeDVUMYA ZAPYATYMI
    eZAPYATOY I PODCHASHIEMcPOLKULIZMYcSTATYA NEPOSTOYANNAYAcSTRELA PROSTAYAdMRACHNOTIKHAYA
    dKRYZHEVAYAdPOLUPOVODNAYAdPOVODNAYAdNEPOSTOYANNAYAdKLYUCHEPOVODNAYAdKLYUCHENEPOSTOYANNAYA
    dTIKHAYA PUTNAYAdDVOECHELNAYAdDVOECHELNOKRYZHEVAYAdDVOECHELNOPOVODNAYA
    dDVOECHELNAYA KLYUCHEVAYAdDVOECHELNOPOVODNAYA KLYUCHEVAYAdGROMNAYA WITH SINGLE ZAPYATAYA
    dGROMOPOVODNAYA WITH SINGLE ZAPYATAYAdGROMNAYAdGROMOPOVODNAYAeWITH DOUBLE ZAPYATAYA
    dGROMOKRYZHEVAYAePOVODNAYAcMECHIKdPOVODNYdKLYUCHEVOYdKLYUCHEPOVODNYdKLYUCHENEPOSTOYANNY
    cSTRELA TRYASOGLASNAYAdTRYASOPOVODNAYAdTRYASOSTRELNAYAcOSOKAdSVETLAYAdTRESVETLAYA
    dKRYUKOVAYA SVETLAYAdKLYUCHEVAYA SVETLAYAeNEPOSTOYANNAYAcSTRELA KRYUKOVAYAePOVODNAYA
    eGROMNAYA WITH SINGLE ZAPYATAYAeGROMOPOVODNAYA WITH SINGLE ZAPYATAYAeGROMNAYAeGROMOPOVODNAYA
    fWITH DOUBLE ZAPYATAYAeGROMOKRYZHEVAYAfPOVODNAYAeTRYASKAcKUFISMAcOBLAKOcDUDAcNEMKAcPAUK"⟩,
  ⟨0x1d000, "aBYZANTINE MUSICAL SYMBOL PSILIdDASEIAdPERISPOMENIdOXEIA EKFONITIKONeDIPLI
    dVAREIA EKFONITIKONeDIPLIdKATHISTIdSYRMATIKIdPARAKLITIKIdYPOKRISISeDIPLIdKREMASTI
    dAPESO EKFONITIKONdEXO EKFONITIKONdTELEIAdKENTIMATAdAPOSTROFOSeDIPLIdSYNEVMAdTHITA
    dOLIGON ARCHAIONdGORGON ARCHAIONdPSILONdCHAMILONdVATHYdISON ARCHAIONdKENTIMA ARCHAION
    dKENTIMATA ARCHAIONdSAXIMATAdPARICHONdSTAVROS APODEXIAdOXEIAI ARCHAIONdVAREIAI ARCHAION
    dAPODERMA ARCHAIONdAPOTHEMAdKLASMAdREVMAdPIASMA ARCHAIONdTINAGMAdANATRICHISMAdSEISMA
    dSYNAGMA ARCHAIONeMETA STAVROUdOYRANISMA ARCHAIONdTHEMAdLEMOIdDYOdTRIAdTESSERAdKRATIMATA
    dAPESO EXO NEOdFTHORA ARCHAIONdIMIFTHORAdTROMIKON ARCHAIONdKATAVA TROMIKONdPELASTON
    dPSIFISTONdKONTEVMAdCHOREVMA ARCHAIONdRAPISMAdPARAKALESMA ARCHAIONdPARAKLITIKI ARCHAION
    dICHADINdNANAdPETASMAdKONTEVMA ALLOdTROMIKON ALLOdSTRAGGISMATAdGRONTHISMATAdISON NEO
    dOLIGON NEOdOXEIA NEOdPETASTIdKOUFISMAdPETASTOKOUFISMAdKRATIMOKOUFISMAdPELASTON NEO
    dKENTIMATA NEO ANOdKENTIMA NEO ANOdYPSILIdAPOSTROFOS NEOdAPOSTROFOI SYNDESMOS NEOdYPORROI
    dKRATIMOYPORROONdELAFRONdCHAMILIdMIKRON ISONdVAREIA NEOdPIASMA NEOdPSIFISTON NEOdOMALON
    dANTIKENOMAdLYGISMAdPARAKLITIKI NEOdPARAKALESMA NEOdETERON PARAKALESMAdKYLISMA
    dANTIKENOKYLISMAdTROMIKON NEOdEKSTREPTONdSYNAGMA NEOdSYRMAdCHOREVMA NEOdEPEGERMAdSEISMA NEO
    dXIRON KLASMAdTROMIKOPSIFISTONdPSIFISTOLYGISMAdTROMIKOLYGISMAdTROMIKOPARAKALESMA
    dPSIFISTOPARAKALESMAdTROMIKOSYNAGMAdPSIFISTOSYNAGMAdGORGOSYNTHETONdARGOSYNTHETON
    dETERON ARGOSYNTHETONdOYRANISMA NEOdTHEMATISMOS ESOeEXOdTHEMA APLOUNdTHES KAI APOTHES
    dKATAVASMAdENDOFONONdYFEN KATOeANOdSTAVROSdKLASMA ANOdDIPLI ARCHAIONdKRATIMA ARCHAIONeALLO
    eNEOdAPODERMA NEOdAPLIdDIPLIdTRIPLIdTETRAPLIdKORONISdLEIMMA ENOS CHRONOUeDYO CHRONON
    eTRION CHRONONeTESSARON CHRONONeIMISEOS CHRONOUdGORGON NEO ANOePARESTIGMENON ARISTERAfDEXIA
    dDIGORGONePARESTIGMENON ARISTERA KATOgANOfDEXIAdTRIGORGONdARGONdIMIDIARGONdDIARGON
    dAGOGI POLI ARGIeARGOTERIeARGIeMETRIAeMESIeGORGIeGORGOTERIePOLI GORGIdMARTYRIA PROTOS ICHOS
    eALLI PROTOS ICHOSeDEYTEROS ICHOSeALLI DEYTEROS ICHOSeTRITOS ICHOSeTRIFONIASeTETARTOS ICHOS
    fLEGETOS ICHOSeLEGETOS ICHOSePLAGIOS ICHOSdISAKIA TELOUS ICHIMATOS
    dAPOSTROFOI TELOUS ICHIMATOSdFANEROSIS TETRAFONIASeMONOFONIASeDIFONIASdMARTYRIA VARYS ICHOS
    ePROTOVARYS ICHOSePLAGIOS TETARTOS ICHOSdGORTHMIKON N APLOUNfDIPLOUNdENARXIS KAI FTHORA VOU
    dIMIFONONdIMIFTHORONdFTHORA ARCHAION DEYTEROU ICHOUeDIATONIKI PAfNANAeNAOS ICHOS
    eDIATONIKI DIeSKLIRON DIATONON DIeDIATONIKI KEfZOfNI KATOgANOeMALAKON CHROMA DIFONIAS
    gMONOFONIASdFHTORA SKLIRON CHROMA VASISdFTHORA SKLIRON CHROMA SYNAFIeNENANOdCHROA ZYGOS
    eKLITONeSPATHIdFTHORA I YFESIS TETARTIMORIONeENARMONIOS ANTIFONIAdYFESIS TRITIMORION
    dDIESIS TRITIMORIONeTETARTIMORIONeAPLI DYO DODEKATAeMONOGRAMMOS TESSERA DODEKATA
    eDIGRAMMOS EX DODEKATAeTRIGRAMMOS OKTO DODEKATAdYFESIS APLI DYO DODEKATA
    eMONOGRAMMOS TESSERA DODEKATAeDIGRAMMOS EX DODEKATAeTRIGRAMMOS OKTO DODEKATAdGENIKI DIESIS
    eYFESISdDIASTOLI APLI MIKRIfMEGALIeDIPLIeTHESEOSdSIMANSIS THESEOSfDISIMOUfTRISIMOU
    fTETRASIMOUeARSEOSfDISIMOUfTRISIMOUfTETRASIMOUdDIGRAMMA GGdDIFTOGGOS OUdSTIGMAdARKTIKO PA
    eVOUeGAeDIeKEeZOeNIdKENTIMATA NEO MESOdKENTIMA NEO MESOdKENTIMATA NEO KATOdKENTIMA NEO KATO
    dKLASMA KATOdGORGON NEO KATO"⟩,
  ⟨0x1d100, "aMUSICAL SYMBOL SINGLE BARLINEcDOUBLE BARLINEcFINAL BARLINEcREVERSE FINAL BARLINE
    cDASHED BARLINEcSHORT BARLINEcLEFT REPEAT SIGNcRIGHT REPEAT SIGNcREPEAT DOTScDAL SEGNO
    cDA CAPOcSEGNOcCODAcREPEATED FIGURE-1dFIGURE-2dFIGURE-3cFERMATAdBELOWcBREATH MARKcCAESURA
    cBRACEcBRACKETcONE-LINE STAFFcTWO-LINE STAFFcTHREE-LINE STAFFcFOUR-LINE STAFF
    cFIVE-LINE STAFFcSIX-LINE STAFFcSIX-STRING FRETBOARDcFOUR-STRING FRETBOARDcG CLEF
    eOTTAVA ALTAfBASSAcC CLEFcF CLEFeOTTAVA ALTAfBASSAcDRUM CLEF-1dCLEF-2"⟩,
  ⟨0x1d129, "aMUSICAL SYMBOL MULTIPLE MEASURE RESTcDOUBLE SHARPdFLATcFLAT UPdDOWNcNATURAL UP
    dDOWNcSHARP UPdDOWNcQUARTER TONE SHARPeFLATcCOMMON TIMEcCUT TIMEcOTTAVA ALTAdBASSA
    cQUINDICESIMA ALTAdBASSAcMULTI RESTcWHOLE RESTcHALF RESTcQUARTER RESTcEIGHTH REST
    cSIXTEENTH RESTcTHIRTY-SECOND RESTcSIXTY-FOURTH RESTcONE HUNDRED TWENTY-EIGHTH REST
    cX NOTEHEADcPLUS NOTEHEADcCIRCLE X NOTEHEADcSQUARE NOTEHEAD WHITEeBLACK
    cTRIANGLE NOTEHEAD UP WHITEfBLACKeLEFT WHITEfBLACKeRIGHT WHITEfBLACKeDOWN WHITEfBLACK
    eUP RIGHT WHITEgBLACKcMOON NOTEHEAD WHITEeBLACKcTRIANGLE-ROUND NOTEHEAD DOWN WHITEfBLACK
    cPARENTHESIS NOTEHEADcVOID NOTEHEADcNOTEHEAD BLACKcNULL NOTEHEADcCLUSTER NOTEHEAD WHITE
    eBLACKcBREVEcWHOLE NOTEcHALF NOTEcQUARTER NOTEcEIGHTH NOTEcSIXTEENTH NOTEcTHIRTY-SECOND NOTE
    cSIXTY-FOURTH NOTEcONE HUNDRED TWENTY-EIGHTH NOTEcCOMBINING STEMdSPRECHGESANG STEMdTREMOLO-1
    dTREMOLO-2dTREMOLO-3cFINGERED TREMOLO-1dTREMOLO-2dTREMOLO-3cCOMBINING AUGMENTATION DOT
    dFLAG-1dFLAG-2dFLAG-3dFLAG-4dFLAG-5cBEGIN BEAMcEND BEAMcBEGIN TIEcEND TIEcBEGIN SLUR
    cEND SLURcBEGIN PHRASEcEND PHRASEcCOMBINING ACCENTdSTACCATOdTENUTOdSTACCATISSIMOdMARCATO
    dMARCATO-STACCATOdACCENT-STACCATOdLOUREcARPEGGIATO UPdDOWNcCOMBINING DOITdRIPdFLIPdSMEAR
    dBENDdDOUBLE TONGUEdTRIPLE TONGUEcRINFORZANDOcSUBITOcZcPIANOcMEZZOcFORTEcCRESCENDO
    cDECRESCENDOcGRACE NOTE SLASHeNO SLASHcTRcTURNcINVERTED TURNcTURN SLASHdUPcORNAMENT STROKE-1
    dSTROKE-2dSTROKE-3dSTROKE-4dSTROKE-5dSTROKE-6dSTROKE-7dSTROKE-8dSTROKE-9dSTROKE-10dSTROKE-11
    cHAUPTSTIMMEcNEBENSTIMMEcEND OF STIMMEcDEGREE SLASHcCOMBINING DOWN BOWdUP BOWdHARMONIC
    dSNAP PIZZICATOcPEDAL MARKdUP MARKcHALF PEDAL MARKcGLISSANDO UPdDOWNcWITH FINGERNAILScDAMP
    dALLcMAXIMAcLONGAcBREVIScSEMIBREVIS WHITEdBLACKcMINIMAdBLACKcSEMIMINIMA WHITEdBLACK
    cFUSA WHITEdBLACKcLONGA PERFECTA RESTdIMPERFECTA RESTcBREVIS RESTcSEMIBREVIS REST
    cMINIMA RESTcSEMIMINIMA RESTcTEMPUS PERFECTUM CUM PROLATIONE PERFECTAgIMPERFECTA
    gPERFECTA DIMINUTION-1dIMPERFECTUM CUM PROLATIONE PERFECTAgIMPERFECTAhDIMINUTION-1
    hDIMINUTION-2hDIMINUTION-3cCROIXcGREGORIAN C CLEFdF CLEFcSQUARE BcVIRGAcPODATUScCLIVIS
    cSCANDICUScCLIMACUScTORCULUScPORRECTUSdFLEXUScSCANDICUS FLEXUScTORCULUS RESUPINUS
    cPES SUBPUNCTIScKIEVAN C CLEFdEND OF PIECEdFINAL NOTEdRECITATIVE MARKdWHOLE NOTEdHALF NOTE
    dQUARTER NOTE STEM DOWNgUPdEIGHTH NOTE STEM DOWNgUPdFLAT SIGNcSORIcKORON"⟩,
  ⟨0x1d200, "aGREEK VOCAL NOTATION SYMBOL-1dSYMBOL-2dSYMBOL-3dSYMBOL-4dSYMBOL-5dSYMBOL-6
    dSYMBOL-7dSYMBOL-8dSYMBOL-9dSYMBOL-10dSYMBOL-11dSYMBOL-12dSYMBOL-13dSYMBOL-14dSYMBOL-15
    dSYMBOL-16dSYMBOL-17dSYMBOL-18dSYMBOL-19dSYMBOL-20dSYMBOL-21dSYMBOL-22dSYMBOL-23dSYMBOL-24
    dSYMBOL-50dSYMBOL-51dSYMBOL-52dSYMBOL-53dSYMBOL-54bINSTRUMENTAL NOTATION SYMBOL-1dSYMBOL-2
    dSYMBOL-4dSYMBOL-5dSYMBOL-7dSYMBOL-8dSYMBOL-11dSYMBOL-12dSYMBOL-13dSYMBOL-14dSYMBOL-17
    dSYMBOL-18dSYMBOL-19dSYMBOL-23dSYMBOL-24dSYMBOL-25dSYMBOL-26dSYMBOL-27dSYMBOL-29dSYMBOL-30
    dSYMBOL-32dSYMBOL-36dSYMBOL-37dSYMBOL-38dSYMBOL-39dSYMBOL-40dSYMBOL-42dSYMBOL-43dSYMBOL-45
    dSYMBOL-47dSYMBOL-48dSYMBOL-49dSYMBOL-50dSYMBOL-51dSYMBOL-52dSYMBOL-53dSYMBOL-54
    aCOMBINING GREEK MUSICAL TRISEMEdTETRASEMEdPENTASEMEaGREEK MUSICAL LEIMMA"⟩,
  ⟨0x1d2e0, "aMAYAN NUMERAL ZEROcONEcTWOcTHREEcFOURcFIVEcSIXcSEVENcEIGHTcNINEcTENcELEVENcTWELVE
    cTHIRTEENcFOURTEENcFIFTEENcSIXTEENcSEVENTEENcEIGHTEENcNINETEEN"⟩,
  ⟨0x1d300, "aMONOGRAM FOR EARTHaDIGRAM FOR HEAVENLY EARTHcHUMAN EARTHcEARTHLY HEAVENdHUMAN
    cEARTHaTETRAGRAM FOR CENTREcFULL CIRCLEcMIREDcBARRIERcKEEPING SMALLcCONTRARIETYcASCENT
    cOPPOSITIONcBRANCHING OUTcDEFECTIVENESS OR DISTORTIONcDIVERGENCEcYOUTHFULNESScINCREASE
    cPENETRATIONcREACHcCONTACTcHOLDING BACKcWAITINGcFOLLOWINGcADVANCEcRELEASEcRESISTANCEcEASE
    cJOYcCONTENTIONcENDEAVOURcDUTIEScCHANGEcDECISIVENESScBOLD RESOLUTIONcPACKINGcLEGION
    cCLOSENESScKINSHIPcGATHERINGcSTRENGTHcPURITYcFULLNESScRESIDENCEcLAW OR MODELcRESPONSE
    cGOING TO MEETcENCOUNTERScSTOVEcGREATNESScENLARGEMENTcPATTERNcRITUALcFLIGHT
    cVASTNESS OR WASTINGcCONSTANCYcMEASUREcETERNITYcUNITYcDIMINISHMENTcCLOSED MOUTHcGUARDEDNESS
    cGATHERING INcMASSINGcACCUMULATIONcEMBELLISHMENTcDOUBTcWATCHcSINKINGcINNERcDEPARTURE
    cDARKENINGcDIMMINGcEXHAUSTIONcSEVERANCEcSTOPPAGEcHARDNESScCOMPLETIONcCLOSUREcFAILURE
    cAGGRAVATIONcCOMPLIANCEcON THE VERGEcDIFFICULTIEScLABOURINGcFOSTERING"⟩,
  ⟨0x1d360, "aCOUNTING ROD UNIT DIGIT ONEeTWOeTHREEeFOUReFIVEeSIXeSEVENeEIGHTeNINE
    cTENS DIGIT ONEeTWOeTHREEeFOUReFIVEeSIXeSEVENeEIGHTeNINEaIDEOGRAPHIC TALLY MARK ONEdTWO
    dTHREEdFOURdFIVEaTALLY MARK ONEcFIVE"⟩,
  ⟨0x1d400, "aMATHEMATICAL BOLD CAPITAL AdBdCdDdEdFdGdHdIdJdKdLdMdNdOdPdQdRdSdTdUdVdWdXdYdZ
    cSMALL AdBdCdDdEdFdGdHdIdJdKdLdMdNdOdPdQdRdSdTdUdVdWdXdYdZbITALIC CAPITAL AdBdCdDdEdFdGdHdI
    dJdKdLdMdNdOdPdQdRdSdTdUdVdWdXdYdZcSMALL AdBdCdDdEdFdG"⟩,
  ⟨0x1d456, "aMATHEMATICAL ITALIC SMALL IdJdKdLdMdNdOdPdQdRdSdTdUdVdWdXdYdZ
    bBOLD ITALIC CAPITAL AeBeCeDeEeFeGeHeIeJeKeLeMeNeOePeQeReSeTeUeVeWeXeYeZdSMALL AeBeCeDeEeFeG
    eHeIeJeKeLeMeNeOePeQeReSeTeUeVeWeXeYeZbSCRIPT CAPITAL A"⟩,
  ⟨0x1d49e, "aMATHEMATICAL SCRIPT CAPITAL CdD"⟩, ⟨0x1d4a2, "aMATHEMATICAL SCRIPT CAPITAL G"⟩,
  ⟨0x1d4a5, "aMATHEMATICAL SCRIPT CAPITAL JdK"⟩, ⟨0x1d4a9, "aMATHEMATICAL SCRIPT CAPITAL NdOdPdQ"⟩,
  ⟨0x1d4ae, "aMATHEMATICAL SCRIPT CAPITAL SdTdUdVdWdXdYdZcSMALL AdBdCdD"⟩,
  ⟨0x1d4bb, "aMATHEMATICAL SCRIPT SMALL F"⟩, ⟨0x1d4bd, "aMATHEMATICAL SCRIPT SMALL HdIdJdKdLdMdN"⟩,
  ⟨0x1d4c5, "aMATHEMATICAL SCRIPT SMALL PdQdRdSdTdUdVdWdXdYdZbBOLD SCRIPT CAPITAL AeBeCeDeEeFeG
    eHeIeJeKeLeMeNeOePeQeReSeTeUeVeWeXeYeZdSMALL AeBeCeDeEeFeGeHeIeJeKeLeMeNeOePeQeReSeTeUeVeWeX
    eYeZbFRAKTUR CAPITAL AdB"⟩, ⟨0x1d507, "aMATHEMATICAL FRAKTUR CAPITAL DdEdFdG"⟩,
  ⟨0x1d50d, "aMATHEMATICAL FRAKTUR CAPITAL JdKdLdMdNdOdPdQ"⟩,
  ⟨0x1d516, "aMATHEMATICAL FRAKTUR CAPITAL SdTdUdVdWdXdY"⟩,
  ⟨0x1d51e, "aMATHEMATICAL FRAKTUR SMALL AdBdCdDdEdFdGdHdIdJdKdLdMdNdOdPdQdRdSdTdUdVdWdXdYdZ
    bDOUBLE-STRUCK CAPITAL AdB"⟩, ⟨0x1d53b, "aMATHEMATICAL DOUBLE-STRUCK CAPITAL DdEdFdG"⟩,
  ⟨0x1d540, "aMATHEMATICAL DOUBLE-STRUCK CAPITAL IdJdKdLdM"⟩,
  ⟨0x1d546, "aMATHEMATICAL DOUBLE-STRUCK CAPITAL O"⟩,
  ⟨0x1d54a, "aMATHEMATICAL DOUBLE-STRUCK CAPITAL SdTdUdVdWdXdY"⟩,
  ⟨0x1d552, "aMATHEMATICAL DOUBLE-STRUCK SMALL AdBdCdDdEdFdGdHdIdJdKdLdMdNdOdPdQdRdSdTdUdVdWdXdY
    dZbBOLD FRAKTUR CAPITAL AeBeCeDeEeFeGeHeIeJeKeLeMeNeOePeQeReSeTeUeVeWeXeYeZdSMALL AeBeCeDeE
    eFeGeHeIeJeKeLeMeNeOePeQeReSeTeUeVeWeXeYeZbSANS-SERIF CAPITAL AdBdCdDdEdFdGdHdIdJdKdLdMdNdO
    dPdQdRdSdTdUdVdWdXdYdZcSMALL AdBdCdDdEdFdGdHdIdJdKdLdMdNdOdPdQdRdSdTdUdVdWdXdYdZ
    cBOLD CAPITAL AeBeCeDeEeFeGeHeIeJeKeLeMeNeOePeQeReSeTeUeVeWeXeYeZdSMALL AeBeCeDeEeFeGeHeIeJ
    eKeLeMeNeOePeQeReSeTeUeVeWeXeYeZcITALIC CAPITAL AeBeCeDeEeFeGeHeIeJeKeLeMeNeOePeQeReSeTeUeV
    eWeXeYeZdSMALL AeBeCeDeEeFeGeHeIeJeKeLeMeNeOePeQeReSeTeUeVeWeXeYeZcBOLD ITALIC CAPITAL AfBfC
    fDfEfFfGfHfIfJfKfLfMfNfOfPfQfRfSfTfUfVfWfXfYfZeSMALL AfBfCfDfEfFfGfHfIfJfKfLfMfNfOfPfQfRfSfT
    fUfVfWfXfYfZbMONOSPACE CAPITAL AdBdCdDdEdFdGdHdIdJdKdLdMdNdOdPdQdRdSdTdUdVdWdXdYdZcSMALL AdB
    dCdDdEdFdGdHdIdJdKdLdMdNdOdPdQdRdSdTdUdVdWdXdYdZbITALIC SMALL DOTLESS IeJ"⟩,
  ⟨0x1d6a8, "aMATHEMATICAL BOLD CAPITAL ALPHAdBETAdGAMMAdDELTAdEPSILONdZETAdETAdTHETAdIOTAdKAPPA
    dLAMDAdMUdNUdXIdOMICRONdPIdRHOdTHETA SYMBOLdSIGMAdTAUdUPSILONdPHIdCHIdPSIdOMEGAcNABLA
    cSMALL ALPHAdBETAdGAMMAdDELTAdEPSILONdZETAdETAdTHETAdIOTAdKAPPAdLAMDAdMUdNUdXIdOMICRONdPI
    dRHOdFINAL SIGMAdSIGMAdTAUdUPSILONdPHIdCHIdPSIdOMEGAcPARTIAL DIFFERENTIALcEPSILON SYMBOL
    cTHETA SYMBOLcKAPPA SYMBOLcPHI SYMBOLcRHO SYMBOLcPI SYMBOLbITALIC CAPITAL ALPHAdBETAdGAMMA
    dDELTAdEPSILONdZETAdETAdTHETAdIOTAdKAPPAdLAMDAdMUdNUdXIdOMICRONdPIdRHOdTHETA SYMBOLdSIGMA
    dTAUdUPSILONdPHIdCHIdPSIdOMEGAcNABLAcSMALL ALPHAdBETAdGAMMAdDELTAdEPSILONdZETAdETAdTHETA
    dIOTAdKAPPAdLAMDAdMUdNUdXIdOMICRONdPIdRHOdFINAL SIGMAdSIGMAdTAUdUPSILONdPHIdCHIdPSIdOMEGA
    cPARTIAL DIFFERENTIALcEPSILON SYMBOLcTHETA SYMBOLcKAPPA SYMBOLcPHI SYMBOLcRHO SYMBOL
    cPI SYMBOLbBOLD ITALIC CAPITAL ALPHAeBETAeGAMMAeDELTAeEPSILONeZETAeETAeTHETAeIOTAeKAPPA
    eLAMDAeMUeNUeXIeOMICRONePIeRHOeTHETA SYMBOLeSIGMAeTAUeUPSILONePHIeCHIePSIeOMEGAdNABLA
    dSMALL ALPHAeBETAeGAMMAeDELTAeEPSILONeZETAeETAeTHETAeIOTAeKAPPAeLAMDAeMUeNUeXIeOMICRONePI
    eRHOeFINAL SIGMAeSIGMAeTAUeUPSILONePHIeCHIePSIeOMEGAdPARTIAL DIFFERENTIALdEPSILON SYMBOL
    dTHETA SYMBOLdKAPPA SYMBOLdPHI SYMBOLdRHO SYMBOLdPI SYMBOLbSANS-SERIF BOLD CAPITAL ALPHA
    eBETAeGAMMAeDELTAeEPSILONeZETAeETAeTHETAeIOTAeKAPPAeLAMDAeMUeNUeXIeOMICRONePIeRHO
    eTHETA SYMBOLeSIGMAeTAUeUPSILONePHIeCHIePSIeOMEGAdNABLAdSMALL ALPHAeBETAeGAMMAeDELTAeEPSILON
    eZETAeETAeTHETAeIOTAeKAPPAeLAMDAeMUeNUeXIeOMICRONePIeRHOeFINAL SIGMAeSIGMAeTAUeUPSILONePHI
    eCHIePSIeOMEGAdPARTIAL DIFFERENTIALdEPSILON SYMBOLdTHETA SYMBOLdKAPPA SYMBOLdPHI SYMBOL
    dRHO SYMBOLdPI SYMBOLdITALIC CAPITAL ALPHAfBETAfGAMMAfDELTAfEPSILONfZETAfETAfTHETAfIOTA
    fKAPPAfLAMDAfMUfNUfXIfOMICRONfPIfRHOfTHETA SYMBOLfSIGMAfTAUfUPSILONfPHIfCHIfPSIfOMEGAeNABLA
    eSMALL ALPHAfBETAfGAMMAfDELTAfEPSILONfZETAfETAfTHETAfIOTAfKAPPAfLAMDAfMUfNUfXIfOMICRONfPI
    fRHOfFINAL SIGMAfSIGMAfTAUfUPSILONfPHIfCHIfPSIfOMEGAePARTIAL DIFFERENTIALeEPSILON SYMBOL
    eTHETA SYMBOLeKAPPA SYMBOLePHI SYMBOLeRHO SYMBOLePI SYMBOLbBOLD CAPITAL DIGAMMA
    cSMALL DIGAMMA"⟩,
  ⟨0x1d7ce, "aMATHEMATICAL BOLD DIGIT ZEROdONEdTWOdTHREEdFOURdFIVEdSIXdSEVENdEIGHTdNINE
    bDOUBLE-STRUCK DIGIT ZEROdONEdTWOdTHREEdFOURdFIVEdSIXdSEVENdEIGHTdNINEbSANS-SERIF DIGIT ZERO
    dONEdTWOdTHREEdFOURdFIVEdSIXdSEVENdEIGHTdNINEcBOLD DIGIT ZEROeONEeTWOeTHREEeFOUReFIVEeSIX
    eSEVENeEIGHTeNINEbMONOSPACE DIGIT ZEROdONEdTWOdTHREEdFOURdFIVEdSIXdSEVENdEIGHTdNINE
    aSIGNWRITING HAND-FIST INDEXbHAND-CIRCLE INDEXbHAND-CUP INDEXbHAND-OVAL INDEX
    bHAND-HINGE INDEXbHAND-ANGLE INDEXbHAND-FIST INDEX BENTbHAND-CIRCLE INDEX BENT
    bHAND-FIST THUMB UNDER INDEX BENTcINDEX RAISED KNUCKLEdCUPPEDdHINGEDeLOW
    bHAND-CIRCLE INDEX HINGEbHAND-FIST INDEX MIDDLEbHAND-CIRCLE INDEX MIDDLE
    bHAND-FIST INDEX MIDDLE BENTeRAISED KNUCKLESeHINGEDdUP MIDDLE HINGEDdHINGED MIDDLE UP
    dMIDDLE CONJOINEDfINDEX BENTfMIDDLE BENTfCUPPEDfHINGEDeCROSSED
    bHAND-CIRCLE INDEX MIDDLE CROSSEDbHAND-FIST MIDDLE BENT OVER INDEXcINDEX BENT OVER MIDDLE
    dMIDDLE THUMBbHAND-CIRCLE INDEX MIDDLE THUMBbHAND-FIST INDEX MIDDLE STRAIGHT THUMB BENT
    eBENT THUMB STRAIGHTeTHUMB BENTeHINGED SPREAD THUMB SIDEdUP MIDDLE HINGED THUMB SIDE
    hCONJOINEDdHINGED MIDDLE UP THUMB SIDEdMIDDLE UP SPREAD THUMB FORWARDeTHUMB CUPPEDfCIRCLED
    fHOOKEDfHINGEDcTHUMB BETWEEN INDEX MIDDLE STRAIGHTcINDEX MIDDLE CONJOINED THUMB SIDE
    hCONJOINEDhBENTcMIDDLE THUMB HOOKED INDEX UPcINDEX THUMB HOOKED MIDDLE UP
    dMIDDLE CONJOINED HINGED THUMB SIDEeCROSSED THUMB SIDEeCONJOINED THUMB FORWARD
    fCUPPED THUMB FORWARDcMIDDLE THUMB CUPPED INDEX UPcINDEX THUMB CUPPED MIDDLE UP
    cMIDDLE THUMB CIRCLED INDEX UPgHINGEDcINDEX THUMB ANGLED OUT MIDDLE UPfIN MIDDLE UP
    eCIRCLED MIDDLE UPdMIDDLE THUMB CONJOINED HINGEDfANGLED OUTfANGLED
    cMIDDLE THUMB ANGLED OUT INDEX UPhCROSSEDfINDEX UPcINDEX THUMB HOOKED MIDDLE HINGED
    bHAND-FLAT FOUR FINGERSeBENTeHINGEDeCONJOINEDfSPLITbHAND-CLAW FOUR FINGERS CONJOINED
    bHAND-FIST FOUR FINGERS CONJOINED BENTbHAND-HINGE FOUR FINGERS CONJOINED
    bHAND-FLAT FIVE FINGERS SPREADcHEEL FIVE FINGERS SPREADcFIVE FINGERS SPREAD FOUR BENT
    cHEEL FIVE FINGERS SPREAD FOUR BENTcFIVE FINGERS SPREAD BENTcHEEL FIVE FINGERS SPREAD BENT
    cFIVE FINGERS SPREAD THUMB FORWARDbHAND-CUP FIVE FINGERS SPREADfOPEN
    bHAND-HINGE FIVE FINGERS SPREAD OPENbHAND-OVAL FIVE FINGERS SPREAD
    bHAND-FLAT FIVE FINGERS SPREAD HINGEDgTHUMB SIDEgNO THUMBbHAND-FLATcBETWEEN PALM FACINGS
    cHEELcTHUMB SIDEcHEEL THUMB SIDEcTHUMB BENTdFORWARDcSPLIT INDEX THUMB SIDEdCENTREeTHUMB SIDE
    gBENTdLITTLEbHAND-CLAWcTHUMB SIDEcNO THUMBcTHUMB FORWARDbHAND-HOOK CURLICUEbHAND-HOOK
    bHAND-CUP OPENbHAND-CUPcOPEN THUMB SIDEcTHUMB SIDEcOPEN NO THUMBcNO THUMBcOPEN THUMB FORWARD
    cTHUMB FORWARDbHAND-CURLICUE OPENbHAND-CURLICUEbHAND-CIRCLEbHAND-OVALcTHUMB SIDEcNO THUMB
    cTHUMB FORWARDbHAND-HINGE OPENdTHUMB FORWARDbHAND-HINGEcSMALLcOPEN THUMB SIDEcTHUMB SIDE
    cOPEN NO THUMBcNO THUMBcTHUMB SIDE TOUCHING INDEXdBETWEEN MIDDLE RINGbHAND-ANGLE
    bHAND-FIST INDEX MIDDLE RINGbHAND-CIRCLE INDEX MIDDLE RINGbHAND-HINGE INDEX MIDDLE RING
    bHAND-ANGLE INDEX MIDDLE RINGbHAND-HINGE LITTLEbHAND-FIST INDEX MIDDLE RING BENTfCONJOINED
    bHAND-HINGE INDEX MIDDLE RING CONJOINEDbHAND-FIST LITTLE DOWNeRIPPLE STRAIGHTfCURVED
    eOTHERS CIRCLEDdUPcTHUMB UNDER LITTLE UPbHAND-CIRCLE LITTLE UPbHAND-OVAL LITTLE UP
    bHAND-ANGLE LITTLE UPbHAND-FIST LITTLE RAISED KNUCKLEdBENTdTOUCHES THUMBdTHUMB
    bHAND-HINGE LITTLE THUMBbHAND-FIST LITTLE INDEX THUMBbHAND-HINGE LITTLE INDEX THUMB
    bHAND-ANGLE LITTLE INDEX THUMB INDEX THUMB OUTgTHUMBbHAND-FIST LITTLE INDEX
    bHAND-CIRCLE LITTLE INDEXbHAND-HINGE LITTLE INDEXbHAND-ANGLE LITTLE INDEX
    bHAND-FIST INDEX MIDDLE LITTLEbHAND-CIRCLE INDEX MIDDLE LITTLE
    bHAND-HINGE INDEX MIDDLE LITTLEcRINGbHAND-ANGLE INDEX MIDDLE LITTLE
    bHAND-FIST INDEX MIDDLE CROSS LITTLEbHAND-CIRCLE INDEX MIDDLE CROSS LITTLE
    bHAND-FIST RING DOWNbHAND-HINGE RING DOWN INDEX THUMB HOOK MIDDLE
    bHAND-ANGLE RING DOWN MIDDLE THUMB INDEX CROSSbHAND-FIST RING UPdRAISED KNUCKLEdLITTLE
    bHAND-CIRCLE RING LITTLEbHAND-OVAL RING LITTLEbHAND-ANGLE RING LITTLEbHAND-FIST RING MIDDLE
    eCONJOINEDeRAISED KNUCKLESdINDEXdTHUMBbHAND-HOOK RING THUMBbHAND-FIST INDEX RING LITTLE
    bHAND-CIRCLE INDEX RING LITTLEbHAND-CURLICUE INDEX RING LITTLE ON
    bHAND-HOOK INDEX RING LITTLE OUTfINfUNDERbHAND-CUP INDEX RING LITTLE
    bHAND-HINGE INDEX RING LITTLEbHAND-ANGLE INDEX RING LITTLE OUTeLITTLEbHAND-FIST MIDDLE DOWN
    bHAND-HINGE MIDDLEbHAND-FIST MIDDLE UPbHAND-CIRCLE MIDDLE UPbHAND-FIST MIDDLE RAISED KNUCKLE
    dUP THUMB SIDEbHAND-HOOK MIDDLE THUMBbHAND-FIST MIDDLE THUMB LITTLEdLITTLEdRING LITTLE
    bHAND-CIRCLE MIDDLE RING LITTLEbHAND-CURLICUE MIDDLE RING LITTLE ON
    bHAND-CUP MIDDLE RING LITTLEbHAND-HINGE MIDDLE RING LITTLEbHAND-ANGLE MIDDLE RING LITTLE OUT
    fINeLITTLEbHAND-CIRCLE MIDDLE RING LITTLE BENTbHAND-CLAW MIDDLE RING LITTLE CONJOINEDgSIDE
    bHAND-HOOK MIDDLE RING LITTLE CONJOINED OUTgINfCONJOINEDbHAND-HINGE INDEX HINGED
    bHAND-FIST INDEX THUMB SIDEbHAND-HINGE INDEX THUMB SIDE
    bHAND-FIST INDEX THUMB SIDE THUMB DIAGONALgCONJOINEDgBENTfINDEX BENTfBOTH BENTfINDEX HINGE
    eFORWARD INDEX STRAIGHTgBENTeHOOKeCURLICUEeCURVE THUMB INSIDE
    bHAND-CLAW INDEX THUMB CURVE THUMB INSIDEbHAND-FIST INDEX THUMB CURVE THUMB UNDEReCIRCLE
    bHAND-CUP INDEX THUMBeOPENbHAND-HINGE INDEX THUMB OPENeLARGEdTHUMBeSMALL
    bHAND-ANGLE INDEX THUMB OUTeINdTHUMBbHAND-FIST THUMBdHEELdSIDE DIAGONALeCONJOINEDeBENT
    dFORWARDdBETWEEN INDEX MIDDLEeMIDDLE RINGeRING LITTLEdUNDER TWO FINGERSdOVER TWO FINGERS
    dUNDER THREE FINGERSeFOUR FINGERSdOVER FOUR RAISED KNUCKLESbHAND-FISTcHEELbTOUCH SINGLE
    cMULTIPLEcBETWEENbGRASP SINGLEcMULTIPLEcBETWEENbSTRIKE SINGLEcMULTIPLEcBETWEENbBRUSH SINGLE
    cMULTIPLEcBETWEENbRUB SINGLEcMULTIPLEcBETWEENbSURFACE SYMBOLScBETWEENbSQUEEZE LARGE SINGLE
    cSMALL SINGLEcLARGE MULTIPLEcSMALL MULTIPLEcSEQUENTIALbFLICK LARGE SINGLEcSMALL SINGLE
    cLARGE MULTIPLEcSMALL MULTIPLEcSEQUENTIALbSQUEEZE FLICK ALTERNATING
    bMOVEMENT-HINGE UP DOWN LARGEeSMALLdSEQUENTIALcDOWN SEQUENTIALcUP DOWN ALTERNATING LARGE
    fSMALLcSIDE TO SIDE SCISSORSbMOVEMENT-WALLPLANE FINGER CONTACT
    bMOVEMENT-FLOORPLANE FINGER CONTACTbMOVEMENT-WALLPLANE SINGLE STRAIGHT SMALLeMEDIUMeLARGE
    eLARGESTdWRIST FLEXcDOUBLE STRAIGHTdWRIST FLEXdALTERNATINGeWRIST FLEXcCROSS
    cTRIPLE STRAIGHT MOVEMENTdWRIST FLEXdALTERNATINGeWRIST FLEXcBEND SMALLdMEDIUMdLARGE
    cCORNER SMALLdMEDIUMdLARGEdROTATIONcCHECK SMALLdMEDIUMdLARGEcBOX SMALLdMEDIUMdLARGE
    cZIGZAG SMALLdMEDIUMdLARGEcPEAKS SMALLdMEDIUMdLARGE
    bTRAVEL-WALLPLANE ROTATION-WALLPLANE SINGLEdDOUBLEdALTERNATINGcROTATION-FLOORPLANE SINGLE
    dDOUBLEdALTERNATINGcSHAKINGcARM SPIRAL SINGLEeDOUBLEeTRIPLEbMOVEMENT-DIAGONAL AWAY SMALL
    dMEDIUMdLARGEdLARGESTcTOWARDS SMALLdMEDIUMdLARGEdLARGESTcBETWEEN AWAY SMALLeMEDIUMeLARGE
    eLARGESTdTOWARDS SMALLeMEDIUMeLARGEeLARGESTbMOVEMENT-FLOORPLANE SINGLE STRAIGHT SMALLeMEDIUM
    eLARGEeLARGESTdWRIST FLEXcDOUBLE STRAIGHTdWRIST FLEXdALTERNATINGeWRIST FLEXcCROSS
    cTRIPLE STRAIGHT MOVEMENTdWRIST FLEXdALTERNATING MOVEMENTeWRIST FLEXcBENDcCORNER SMALL
    dMEDIUMdLARGEcCHECKcBOX SMALLdMEDIUMdLARGEcZIGZAG SMALLdMEDIUMdLARGEcPEAKS SMALLdMEDIUM
    dLARGEbTRAVEL-FLOORPLANE ROTATION-FLOORPLANE SINGLEdDOUBLEdALTERNATING
    cROTATION-WALLPLANE SINGLEdDOUBLEdALTERNATINGcSHAKINGbMOVEMENT-WALLPLANE CURVE QUARTER SMALL
    eMEDIUMeLARGEeLARGESTdHALF-CIRCLE SMALLeMEDIUMeLARGEeLARGESTdTHREE-QUARTER CIRCLE SMALL
    fMEDIUMcHUMP SMALLdMEDIUMdLARGEcLOOP SMALLdMEDIUMdLARGEdSMALL DOUBLEcWAVE CURVE DOUBLE SMALL
    fMEDIUMfLARGEeTRIPLE SMALLfMEDIUMfLARGEcCURVE THEN STRAIGHTcCURVED CROSS SMALLeMEDIUM
    bROTATION-WALLPLANE SINGLEcDOUBLEcALTERNATEbMOVEMENT-WALLPLANE SHAKING
    cCURVE HITTING FRONT WALLcHUMP HITTING FRONT WALLcLOOP HITTING FRONT WALL
    cWAVE HITTING FRONT WALLbROTATION-WALLPLANE SINGLE HITTING FRONT WALL
    cDOUBLE HITTING FRONT WALLcALTERNATING HITTING FRONT WALL
    bMOVEMENT-WALLPLANE CURVE HITTING CHESTcHUMP HITTING CHESTcLOOP HITTING CHEST
    cWAVE HITTING CHESTbROTATION-WALLPLANE SINGLE HITTING CHESTcDOUBLE HITTING CHEST
    cALTERNATING HITTING CHESTbMOVEMENT-WALLPLANE WAVE DIAGONAL PATH SMALLfMEDIUMfLARGE
    bMOVEMENT-FLOORPLANE CURVE HITTING CEILING SMALLfLARGEcHUMP HITTING CEILING SMALL DOUBLE
    fLARGE DOUBLEfSMALL TRIPLEfLARGE TRIPLEcLOOP HITTING CEILING SMALL SINGLEfLARGE SINGLE
    fSMALL DOUBLEfLARGE DOUBLEcWAVE HITTING CEILING SMALLfLARGE
    bROTATION-FLOORPLANE SINGLE HITTING CEILINGcDOUBLE HITTING CEILING
    cALTERNATING HITTING CEILINGbMOVEMENT-FLOORPLANE CURVE HITTING FLOOR SMALLfLARGE
    cHUMP HITTING FLOOR SMALL DOUBLEfLARGE DOUBLEfTRIPLE SMALL TRIPLEgLARGE TRIPLE
    cLOOP HITTING FLOOR SMALL SINGLEfLARGE SINGLEfSMALL DOUBLEfLARGE DOUBLE
    cWAVE HITTING FLOOR SMALLfLARGEbROTATION-FLOORPLANE SINGLE HITTING FLOOR
    cDOUBLE HITTING FLOORcALTERNATING HITTING FLOORbMOVEMENT-FLOORPLANE CURVE SMALLdMEDIUMdLARGE
    dLARGESTdCOMBINEDcHUMP SMALLcLOOP SMALLcWAVE SNAKEdSMALLdLARGEbROTATION-FLOORPLANE SINGLE
    cDOUBLEcALTERNATINGbMOVEMENT-FLOORPLANE SHAKING PARALLEL
    bMOVEMENT-WALLPLANE ARM CIRCLE SMALL SINGLEeMEDIUM SINGLEeSMALL DOUBLEeMEDIUM DOUBLE
    bMOVEMENT-FLOORPLANE ARM CIRCLE HITTING WALL SMALL SINGLEgMEDIUM SINGLEgLARGE SINGLE
    gSMALL DOUBLEgMEDIUM DOUBLEgLARGE DOUBLEbMOVEMENT-WALLPLANE WRIST CIRCLE FRONT SINGLEfDOUBLE
    bMOVEMENT-FLOORPLANE WRIST CIRCLE HITTING WALL SINGLEgDOUBLE
    bMOVEMENT-WALLPLANE FINGER CIRCLES SINGLEeDOUBLE
    bMOVEMENT-FLOORPLANE FINGER CIRCLES HITTING WALL SINGLEgDOUBLEbDYNAMIC ARROWHEAD SMALLdLARGE
    cFASTcSLOWcTENSEcRELAXEDcSIMULTANEOUSdALTERNATINGcEVERY OTHER TIMEcGRADUALbHEADcRIM
    cMOVEMENT-WALLPLANE STRAIGHTdTILTcMOVEMENT-FLOORPLANE STRAIGHTcMOVEMENT-WALLPLANE CURVE
    cMOVEMENT-FLOORPLANE CURVEcMOVEMENT CIRCLEbFACE DIRECTION POSITION NOSE FORWARD TILTING
    fUP OR DOWNiTILTINGbEYEBROWS STRAIGHT UPdNEUTRALdDOWNbDREAMY EYEBROWS NEUTRAL DOWN
    dDOWN NEUTRALdUP NEUTRALdNEUTRAL UPbFOREHEAD NEUTRALcCONTACTcWRINKLEDbEYES OPENcSQUEEZED
    cCLOSEDbEYE BLINK SINGLEdMULTIPLEbEYES HALF OPENcWIDE OPENcHALF CLOSEDcWIDENING MOVEMENT
    bEYE WINKbEYELASHES UPcDOWNcFLUTTERINGbEYEGAZE-WALLPLANE STRAIGHTdDOUBLEdALTERNATING
    bEYEGAZE-FLOORPLANE STRAIGHTdDOUBLEdALTERNATINGbEYEGAZE-WALLPLANE CURVED
    bEYEGAZE-FLOORPLANE CURVEDbEYEGAZE-WALLPLANE CIRCLINGbCHEEKS PUFFEDcNEUTRALcSUCKED
    bTENSE CHEEKS HIGHdMIDDLEdLOWbEARSbNOSE NEUTRALcCONTACTcWRINKLEScWIGGLESbAIR BLOWING OUT
    cSUCKING INcBLOW SMALL ROTATIONScSUCK SMALL ROTATIONSbBREATH INHALEcEXHALE
    bMOUTH CLOSED NEUTRALdFORWARDdCONTACTcSMILEdWRINKLEDdOPENcFROWNdWRINKLEDdOPENcOPEN CIRCLE
    dFORWARDdWRINKLEDdOVALeWRINKLEDeYAWNdRECTANGLEeWRINKLEDeYAWNcKISSdFORWARDdWRINKLEDcTENSE
    dFORWARDdSUCKEDbLIPS PRESSED TOGETHERbLIP LOWER OVER UPPERcUPPER OVER LOWERbMOUTH CORNERS
    cWRINKLES SINGLEdDOUBLEbTONGUE STICKING OUT FARcLICKING LIPScTIP BETWEEN LIPS
    dTOUCHING INSIDE MOUTHcINSIDE MOUTH RELAXEDcMOVES AGAINST CHEEKcCENTRE STICKING OUT
    dINSIDE MOUTHbTEETHcMOVEMENTcON TONGUEeMOVEMENTdLIPSeMOVEMENTcBITE LIPS
    bMOVEMENT-WALLPLANE JAWbMOVEMENT-FLOORPLANE JAWbNECKbHAIRbEXCITEMENTbSHOULDER HIP SPINE
    dPOSITIONSbWALLPLANE SHOULDER HIP MOVEbFLOORPLANE SHOULDER HIP MOVE
    bSHOULDER TILTING FROM WAISTbTORSO-WALLPLANE STRAIGHT STRETCHcCURVED BEND
    bTORSO-FLOORPLANE TWISTINGbUPPER BODY TILTING FROM HIP JOINTSbLIMB COMBINATIONcLENGTH-1
    cLENGTH-2cLENGTH-3cLENGTH-4cLENGTH-5cLENGTH-6cLENGTH-7bFINGERbLOCATION-WALLPLANE SPACE
    bLOCATION-FLOORPLANE SPACEbLOCATION HEIGHTcWIDTHcDEPTHcHEAD NECKcTORSOcLIMBS DIGITSbCOMMA
    bFULL STOPbSEMICOLONbCOLONbPARENTHESIS"⟩,
  ⟨0x1da9b, "aSIGNWRITING FILL MODIFIER-2cMODIFIER-3cMODIFIER-4cMODIFIER-5cMODIFIER-6"⟩,
  ⟨0x1daa1, "aSIGNWRITING ROTATION MODIFIER-2cMODIFIER-3cMODIFIER-4cMODIFIER-5cMODIFIER-6
    cMODIFIER-7cMODIFIER-8cMODIFIER-9cMODIFIER-10cMODIFIER-11cMODIFIER-12cMODIFIER-13
    cMODIFIER-14cMODIFIER-15cMODIFIER-16"⟩,
  ⟨0x1df00, "aLATIN SMALL LETTER FENG DIGRAPH WITH TRILLdREVERSED SCRIPT G
    bLETTER SMALL CAPITAL TURNED GbSMALL LETTER REVERSED KbLETTER SMALL CAPITAL L WITH BELT
    bSMALL LETTER LEZH WITH RETROFLEX HOOKdTURNED Y WITH BELTdREVERSED ENG
    dTURNED R WITH LONG LEG AND RETROFLEX HOOKdT WITH HOOK AND RETROFLEX HOOK
    bLETTER RETROFLEX CLICK WITH RETROFLEX HOOKbSMALL LETTER ESH WITH DOUBLE BARhAND CURL
    dTURNED T WITH CURLbLETTER INVERTED GLOTTAL STOP WITH CURLcSTRETCHED C WITH CURL
    cSMALL CAPITAL TURNED KbSMALL LETTER L WITH FISHHOOKdDEZH DIGRAPH WITH PALATAL HOOK
    dL WITH BELT AND PALATAL HOOKdENG WITH PALATAL HOOKdTURNED R WITH PALATAL HOOK
    dR WITH FISHHOOK AND PALATAL HOOKdTESH DIGRAPH WITH PALATAL HOOKdEZH WITH PALATAL HOOK
    dDEZH DIGRAPH WITH RETROFLEX HOOKdI WITH STROKE AND RETROFLEX HOOKdO WITH RETROFLEX HOOK
    dTESH DIGRAPH WITH RETROFLEX HOOKdC WITH RETROFLEX HOOKdS WITH CURL"⟩,
  ⟨0x1e000, "aCOMBINING GLAGOLITIC LETTER AZUdBUKYdVEDEdGLAGOLIdDOBROdYESTUdZHIVETE"⟩,
  ⟨0x1e008, "aCOMBINING GLAGOLITIC LETTER ZEMLJAdIZHEdINITIAL IZHEdIdDJERVIdKAKOdLJUDIJEdMYSLITE
    dNASHIdONUdPOKOJIdRITSIdSLOVOdTVRIDOdUKUdFRITUdHERU"⟩,
  ⟨0x1e01b, "aCOMBINING GLAGOLITIC LETTER SHTAdTSIdCHRIVIdSHAdYERUdYERIdYATI"⟩,
  ⟨0x1e023, "aCOMBINING GLAGOLITIC LETTER YUdSMALL YUS"⟩,
  ⟨0x1e026, "aCOMBINING GLAGOLITIC LETTER YOdIOTATED SMALL YUSdBIG YUSdIOTATED BIG YUSdFITA"⟩,
  ⟨0x1e100, "aNYIAKENG PUACHUE HMONG LETTER MAeTSAeNTAeTAeHAeNAeXAeNKAeCAeLAeSAeZAeNCAeNTSAeKA
    eDAeNYAeNRAeVAeNTXAeTXAeFAeRAeQAeYAeNQAePAeXYAeNPAeDLAeNPLAeHAHeMLAePLAeGAeRRAeAeAAeIeUeOeOO
    eEeEEeW"⟩, ⟨0x1e130, "aNYIAKENG PUACHUE HMONG TONE-BdTONE-MdTONE-JdTONE-VdTONE-SdTONE-GdTONE-D
    dSIGN FOR PERSONfTHINGfLOCATIONfANIMALfINVERTEBRATEeXW XWdSYLLABLE LENGTHENER"⟩,
  ⟨0x1e140, "aNYIAKENG PUACHUE HMONG DIGIT ZEROeONEeTWOeTHREEeFOUReFIVEeSIXeSEVENeEIGHTeNINE"⟩,
  ⟨0x1e14e, "aNYIAKENG PUACHUE HMONG LOGOGRAM NYAJdCIRCLED CA"⟩,
  ⟨0x1e290, "aTOTO LETTER PAcBAcTAcDAcKAcGAcMAcNAcNGAcSAcCHAcYAcWAcJAcHAcRAcLAcIcBREATHY IcIU
    cBREATHY IUcUcEcBREATHY EcEOcBREATHY EOcOcAEcBREATHY AEcAbSIGN RISING TONE"⟩,
  ⟨0x1e2c0, "aWANCHO LETTER AAcAcBAcCAcDAcGAcYAcPHAcLAcNAcPAcTAcTHAcFAcSAcSHAcJAcZAcWAcVAcKAcO
    cAUcRAcMAcKHAcHAcEcIcNGAcUcLLHAcTSAcTRAcONGcAANGcANGcINGcONcENcAANcNYAcUENcYIHbTONE TUP
    cTUPNIcKOIcKOINIbDIGIT ZEROcONEcTWOcTHREEcFOURcFIVEcSIXcSEVENcEIGHTcNINE"⟩,
  ⟨0x1e2ff, "aWANCHO NGUN SIGN"⟩,
  ⟨0x1e7e0, "aETHIOPIC SYLLABLE HHYAcHHYUcHHYIcHHYAAcHHYEEcHHYEcHHYO"⟩,
  ⟨0x1e7e8, "aETHIOPIC SYLLABLE GURAGE HHWAcHHWIcHHWEEcHHWE"⟩,
  ⟨0x1e7ed, "aETHIOPIC SYLLABLE GURAGE MWIdMWEE"⟩,
  ⟨0x1e7f0, "aETHIOPIC SYLLABLE GURAGE QWIdQWEEdQWEdBWIdBWEEdKWIdKWEEdKWEdGWIdGWEEdGWEdFWIdFWEE
    dPWIdPWEE"⟩,
  ⟨0x1e800, "aMENDE KIKAKUI SYLLABLE M001 KIdM002 KAdM003 KUdM065 KEEdM095 KEdM076 KOOdM048 KO
    dM179 KUAdM004 WIdM005 WAdM006 WUdM126 WEEdM118 WEdM114 WOOdM045 WOdM194 WUIdM143 WEI
    dM061 WVIdM049 WVAdM139 WVEdM007 MINdM008 MANdM009 MUNdM059 MENdM094 MONdM154 MUANdM189 MUEN
    dM010 BIdM011 BAdM012 BUdM150 BEEdM097 BEdM103 BOOdM138 BOdM013 IdM014 AdM015 UdM163 EE
    dM100 EdM165 OOdM147 OdM137 EIdM131 INdM135 INdM195 ANdM178 ENdM019 SIdM020 SAdM021 SU
    dM162 SEEdM116 SEdM136 SOOdM079 SOdM196 SIAdM025 LIdM026 LAdM027 LUdM084 LEEdM073 LE
    dM054 LOOdM153 LOdM110 LONG LEdM016 DIdM017 DAdM018 DUdM089 DEEdM180 DOOdM181 DOdM022 TI
    dM023 TAdM024 TUdM091 TEEdM055 TEdM104 TOOdM069 TOdM028 JIdM029 JAdM030 JUdM157 JEEdM113 JE
    dM160 JOOdM063 JOdM175 LONG JOdM031 YIdM032 YAdM033 YUdM109 YEEdM080 YEdM141 YOOdM121 YO
    dM034 FIdM035 FAdM036 FUdM078 FEEdM075 FEdM133 FOOdM088 FOdM197 FUAdM101 FANdM037 NIN
    dM038 NANdM039 NUNdM117 NENdM169 NONdM176 HIdM041 HAdM186 HUdM040 HEEdM096 HEdM042 HOO
    dM140 HOdM083 HEEIdM128 HOOUdM053 HINdM130 HANdM087 HUNdM052 HENdM193 HONdM046 HUAN
    dM090 NGGIdM043 NGGAdM082 NGGUdM115 NGGEEdM146 NGGEdM156 NGGOOdM120 NGGOdM159 NGGAA
    dM127 NGGUAdM086 LONG NGGEdM106 LONG NGGOOdM183 LONG NGGOdM155 GIdM111 GAdM168 GUdM190 GEE
    dM166 GUEIdM167 GUANdM184 NGENdM057 NGONdM177 NGUANdM068 PIdM099 PAdM050 PUdM081 PEEdM051 PE
    dM102 POOdM066 POdM145 MBIdM062 MBAdM122 MBUdM047 MBEEdM188 MBEEdM072 MBEdM172 MBOOdM174 MBO
    dM187 MBUUdM161 LONG MBEdM105 LONG MBOOdM142 LONG MBOdM132 KPIdM092 KPAdM074 KPUdM044 KPEE
    dM108 KPEdM112 KPOOdM158 KPOdM124 GBIdM056 GBAdM148 GBUdM093 GBEEdM107 GBEdM071 GBOO
    dM070 GBOdM171 RAdM123 NDIdM129 NDAdM125 NDUdM191 NDEEdM119 NDEdM067 NDOOdM064 NDOdM152 NJA
    dM192 NJUdM149 NJEEdM134 NJOOdM182 VIdM185 VAdM151 VUdM173 VEEdM085 VEdM144 VOOdM077 VO
    dM164 NYINdM058 NYANdM170 NYUNdM098 NYENdM060 NYON"⟩,
  ⟨0x1e8c7, "aMENDE KIKAKUI DIGIT ONEdTWOdTHREEdFOURdFIVEdSIXdSEVENdEIGHTdNINE
    cCOMBINING NUMBER TEENSeTENSeHUNDREDSeTHOUSANDSeTEN THOUSANDSeHUNDRED THOUSANDSeMILLIONS"⟩,
  ⟨0x1e900, "aADLAM CAPITAL LETTER ALIFdDAALIdLAAMdMIIMdBAdSINNYIIYHEdPEdBHEdRAdEdFAdIdOdDHAdYHE
    dWAWdNUNdKAFdYAdUdJIIMdCHIdHAdQAAFdGAdNYAdTUdNHAdVAdKHAdGBEdZALdKPOdSHAbSMALL LETTER ALIF
    dDAALIdLAAMdMIIMdBAdSINNYIIYHEdPEdBHEdRAdEdFAdIdOdDHAdYHEdWAWdNUNdKAFdYAdUdJIIMdCHIdHAdQAAF
    dGAdNYAdTUdNHAdVAdKHAdGBEdZALdKPOdSHAbALIF LENGTHENERbVOWEL LENGTHENERbGEMINATION MARKbHAMZA
    bCONSONANT MODIFIERbGEMINATE CONSONANT MODIFIERbNUKTAbNASALIZATION MARK"⟩,
  ⟨0x1e950, "aADLAM DIGIT ZEROcONEcTWOcTHREEcFOURcFIVEcSIXcSEVENcEIGHTcNINE"⟩,
  ⟨0x1e95e, "aADLAM INITIAL EXCLAMATION MARKcQUESTION MARK"⟩,
  ⟨0x1ec71, "aINDIC SIYAQ NUMBER ONEdTWOdTHREEdFOURdFIVEdSIXdSEVENdEIGHTdNINEdTENdTWENTYdTHIRTY
    dFORTYdFIFTYdSIXTYdSEVENTYdEIGHTYdNINETYdONE HUNDREDdTWO HUNDREDdTHREE HUNDREDdFOUR HUNDRED
    dFIVE HUNDREDdSIX HUNDREDdSEVEN HUNDREDdEIGHT HUNDREDdNINE HUNDREDdONE THOUSANDdTWO THOUSAND
    dTHREE THOUSANDdFOUR THOUSANDdFIVE THOUSANDdSIX THOUSANDdSEVEN THOUSANDdEIGHT THOUSAND
    dNINE THOUSANDdTEN THOUSANDdTWENTY THOUSANDdTHIRTY THOUSANDdFORTY THOUSANDdFIFTY THOUSAND
    dSIXTY THOUSANDdSEVENTY THOUSANDdEIGHTY THOUSANDdNINETY THOUSANDdLAKHdLAKHANcLAKH MARK
    cNUMBER KARORdKARORANdPREFIXED ONEeTWOeTHREEeFOUReFIVEeSIXeSEVENeEIGHTeNINEcPLACEHOLDER
    cFRACTION ONE QUARTEReHALFdTHREE QUARTERScRUPEE MARKcNUMBER ALTERNATE ONEeTWOeTEN THOUSAND
    cALTERNATE LAKH MARK"⟩,
  ⟨0x1ed01, "aOTTOMAN SIYAQ NUMBER ONEdTWOdTHREEdFOURdFIVEdSIXdSEVENdEIGHTdNINEdTENdTWENTY
    dTHIRTYdFORTYdFIFTYdSIXTYdSEVENTYdEIGHTYdNINETYdONE HUNDREDdTWO HUNDREDdTHREE HUNDRED
    dFOUR HUNDREDdFIVE HUNDREDdSIX HUNDREDdSEVEN HUNDREDdEIGHT HUNDREDdNINE HUNDREDdONE THOUSAND
    dTWO THOUSANDdTHREE THOUSANDdFOUR THOUSANDdFIVE THOUSANDdSIX THOUSANDdSEVEN THOUSAND
    dEIGHT THOUSANDdNINE THOUSANDdTEN THOUSANDdTWENTY THOUSANDdTHIRTY THOUSANDdFORTY THOUSAND
    dFIFTY THOUSANDdSIXTY THOUSANDdSEVENTY THOUSANDdEIGHTY THOUSANDdNINETY THOUSANDcMARRATAN
    cALTERNATE NUMBER TWOeTHREEeFOUReFIVEeSIXeSEVENeEIGHTeNINEeTENeFOUR HUNDREDeSIX HUNDRED
    eTWO THOUSANDeTEN THOUSANDcFRACTION ONE HALFeSIXTH"⟩,
  ⟨0x1ee00, "aARABIC MATHEMATICAL ALEFcBEHcJEEMcDAL"⟩,
  ⟨0x1ee05, "aARABIC MATHEMATICAL WAWcZAINcHAHcTAHcYEHcKAFcLAMcMEEMcNOONcSEENcAINcFEHcSADcQAF
    cREHcSHEENcTEHcTHEHcKHAHcTHALcDADcZAHcGHAINcDOTLESS BEHdNOONdFEHdQAF"⟩,
  ⟨0x1ee21, "aARABIC MATHEMATICAL INITIAL BEHdJEEM"⟩,
  ⟨0x1ee24, "aARABIC MATHEMATICAL INITIAL HEH"⟩, ⟨0x1ee27, "aARABIC MATHEMATICAL INITIAL HAH"⟩,
  ⟨0x1ee29, "aARABIC MATHEMATICAL INITIAL YEHdKAFdLAMdMEEMdNOONdSEENdAINdFEHdSADdQAF"⟩,
  ⟨0x1ee34, "aARABIC MATHEMATICAL INITIAL SHEENdTEHdTHEHdKHAH"⟩,
  ⟨0x1ee39, "aARABIC MATHEMATICAL INITIAL DAD"⟩, ⟨0x1ee3b, "aARABIC MATHEMATICAL INITIAL GHAIN"⟩,
  ⟨0x1ee42, "aARABIC MATHEMATICAL TAILED JEEM"⟩, ⟨0x1ee47, "aARABIC MATHEMATICAL TAILED HAH"⟩,
  ⟨0x1ee49, "aARABIC MATHEMATICAL TAILED YEH"⟩, ⟨0x1ee4b, "aARABIC MATHEMATICAL TAILED LAM"⟩,
  ⟨0x1ee4d, "aARABIC MATHEMATICAL TAILED NOONdSEENdAIN"⟩,
  ⟨0x1ee51, "aARABIC MATHEMATICAL TAILED SADdQAF"⟩, ⟨0x1ee54, "aARABIC MATHEMATICAL TAILED SHEEN"⟩,
  ⟨0x1ee57, "aARABIC MATHEMATICAL TAILED KHAH"⟩, ⟨0x1ee59, "aARABIC MATHEMATICAL TAILED DAD"⟩,
  ⟨0x1ee5b, "aARABIC MATHEMATICAL TAILED GHAIN"⟩,
  ⟨0x1ee5d, "aARABIC MATHEMATICAL TAILED DOTLESS NOON"⟩,
  ⟨0x1ee5f, "aARABIC MATHEMATICAL TAILED DOTLESS QAF"⟩,
  ⟨0x1ee61, "aARABIC MATHEMATICAL STRETCHED BEHdJEEM"⟩,
  ⟨0x1ee64, "aARABIC MATHEMATICAL STRETCHED HEH"⟩,
  ⟨0x1ee67, "aARABIC MATHEMATICAL STRETCHED HAHdTAHdYEHdKAF"⟩,
  ⟨0x1ee6c, "aARABIC MATHEMATICAL STRETCHED MEEMdNOONdSEENdAINdFEHdSADdQAF"⟩,
  ⟨0x1ee74, "aARABIC MATHEMATICAL STRETCHED SHEENdTEHdTHEHdKHAH"⟩,
  ⟨0x1ee79, "aARABIC MATHEMATICAL STRETCHED DADdZAHdGHAINdDOTLESS BEH"⟩,
  ⟨0x1ee7e, "aARABIC MATHEMATICAL STRETCHED DOTLESS FEH"⟩,
  ⟨0x1ee80, "aARABIC MATHEMATICAL LOOPED ALEFdBEHdJEEMdDALdHEHdWAWdZAINdHAHdTAHdYEH"⟩,
  ⟨0x1ee8b, "aARABIC MATHEMATICAL LOOPED LAMdMEEMdNOONdSEENdAINdFEHdSADdQAFdREHdSHEENdTEHdTHEH
    dKHAHdTHALdDADdZAHdGHAIN"⟩, ⟨0x1eea1, "aARABIC MATHEMATICAL DOUBLE-STRUCK BEHdJEEMdDAL"⟩,
  ⟨0x1eea5, "aARABIC MATHEMATICAL DOUBLE-STRUCK WAWdZAINdHAHdTAHdYEH"⟩,
  ⟨0x1eeab, "aARABIC MATHEMATICAL DOUBLE-STRUCK LAMdMEEMdNOONdSEENdAINdFEHdSADdQAFdREHdSHEENdTEH
    dTHEHdKHAHdTHALdDADdZAHdGHAIN"⟩,
  ⟨0x1eef0, "aARABIC MATHEMATICAL OPERATOR MEEM WITH HAH WITH TATWEELdHAH WITH DAL"⟩]

end JournalSearch.Unicode
